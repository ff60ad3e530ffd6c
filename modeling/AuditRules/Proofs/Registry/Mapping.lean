import AuditRules.Proofs.Comparator.Mapping
import AuditRules.Proofs.Registry.Satisfies

namespace AuditRules

variable {engine : PatternEngine}

namespace Registry

open MappingRule
open SequenceRule (filterRule filterRule_asks)

variable {limits : Limits} {checkId : String} {n : Nat}

theorem faithful_delegated (hn : n ≤ limits.nesting) :
    Faithful ((builtins engine limits).delegated checkId n)
      ((builtins engine limits).run checkId) := by
  intro rule v
  refine Evaluation.Ensures.iff.2 ⟨?_, fun _ _ ↦ trivial⟩
  intro verdict hverdict
  exact delegated_ok hn hverdict

theorem run_patternRule_object {fields pattern : Fields}
    (h : fields.Asks .mapping "match" (.object pattern)) (actual : Fields) :
    ((builtins engine limits).run checkId (.object fields) (.object actual)).result =
      (compareFields ((builtins engine limits).context checkId limits.nesting) .entries
        (Rule.mk fields).ignoreCase (.object pattern) (.object actual) actual).result := by
  have hmode : fields.Asks .mapping Mode.entries.key (.object pattern) := h
  rw [run_result, evaluate_asks h (by simp [builtin])]
  exact compare_object hmode _ actual

theorem accepts_patternRule_iff {fields pattern actual : Fields}
    (h : fields.Asks .mapping "match" (.object pattern)) :
    (builtins engine limits).accepts checkId (.object fields) (.object actual) = true ↔
      ∀ entry ∈ pattern, ∃ v, actual.get? entry.1 = some v ∧
        (valueMismatch? ((builtins engine limits).context checkId limits.nesting)
          (Rule.mk fields).ignoreCase entry.1 entry.2 v).result = .ok none := by
  let ctx := (builtins engine limits).context checkId limits.nesting
  have hrun : ((builtins engine limits).run checkId (.object fields) (.object actual)).result =
      (compareFields ctx .entries (Rule.mk fields).ignoreCase (.object pattern) (.object actual)
        actual).result := run_patternRule_object h actual
  rw [← mismatch?_eq_none_iff, accepts, hrun, compareFields, expectedMapping,
    Evaluation.liftM_ok_bind]
  cases hreason : (mismatch? ctx (Rule.mk fields).ignoreCase pattern actual).result with
  | error e => simp [Evaluation.result_bind_error hreason, Except.toOption]
  | ok reason =>
    rw [Evaluation.result_bind_ok hreason]
    cases reason with
    | none => exact iff_of_true rfl rfl
    | some reason =>
      apply iff_of_false
      · intro hfail
        cases hfail
      · intro hnone
        cases hnone

theorem accepts_filterRule_iff {filter actual : Fields} :
    (builtins engine limits).accepts checkId (filterRule filter) (.object actual) = true ↔
      ∀ entry ∈ filter, ∃ v, actual.get? entry.1 = some v ∧
        (valueMismatch? ((builtins engine limits).context checkId limits.nesting) false
          entry.1 entry.2 v).result = .ok none :=
  accepts_patternRule_iff (filterRule_asks filter)

theorem accepts_filterRule_scalar {item : Value} (hitem : item.isObject = false)
    (filter : Fields) :
    (builtins engine limits).accepts checkId (filterRule filter) item = false := by
  have hasks : Fields.Asks _ .mapping Mode.entries.key (.object filter) := filterRule_asks filter
  let ctx := (builtins engine limits).context checkId limits.nesting
  obtain ⟨message, hfail⟩ := compare_scalar hasks hitem ctx
  have hrun : ((builtins engine limits).run checkId (filterRule filter) item).result =
      .ok (.fail message) := by
    rw [run_result, filterRule, evaluate_asks hasks (by simp [builtin])]
    exact hfail
  exact accepts_of_ok hrun

theorem run_patternRule_result {fields pattern : Fields}
    (h : fields.Asks .mapping "match" (.object pattern)) {actual : Fields} {v : Verdict}
    (hv : ((builtins engine limits).run checkId (.object fields) (.object actual)).result = .ok v) :
    (v = .checkPassed ∧ ∀ entry ∈ pattern,
      Satisfied ((builtins engine limits).run checkId) (Rule.mk fields).ignoreCase actual entry) ∨
    ∃ reason, FirstUnsatisfied ((builtins engine limits).run checkId) (Rule.mk fields).ignoreCase
      limits.rendering (depthFirst pattern actual) reason ∧
        v = .fail (shortfallMessage limits.rendering (.object actual) reason) := by
  rw [run_patternRule_object h] at hv
  have hfaithful : Faithful _ ((builtins engine limits).run checkId) :=
    faithful_delegated (Nat.le_refl limits.nesting)
  exact (compareFields_finds hfaithful pattern actual (.object actual)).accepts hv

/-- A rule with a pattern passes, if it is answered, just where every entry of the pattern is
satisfied. Otherwise it fails, and its message names the first entry in depth-first order that is
not satisfied, by the keys that lead to it. -/
theorem run_patternRule {fields pattern : Fields}
    (h : fields.Asks .mapping "match" (.object pattern)) {actual : Fields} {v : Verdict}
    (hv : ((builtins engine limits).run checkId (.object fields) (.object actual)).result = .ok v) :
    (v.outcome = .passed ↔ ∀ entry ∈ pattern,
      Satisfied ((builtins engine limits).run checkId) (Rule.mk fields).ignoreCase actual entry) ∧
    (v.outcome = .failed ↔ ¬ ∀ entry ∈ pattern,
      Satisfied ((builtins engine limits).run checkId) (Rule.mk fields).ignoreCase actual entry) ∧
    (v.outcome = .failed → ∃ reason, FirstUnsatisfied ((builtins engine limits).run checkId)
      (Rule.mk fields).ignoreCase limits.rendering (depthFirst pattern actual) reason ∧
        v.message = shortfallMessage limits.rendering (.object actual) reason) := by
  rcases run_patternRule_result h hv with ⟨rfl, hall⟩ | ⟨reason, hfirst, rfl⟩
  · exact ⟨iff_of_true rfl hall, iff_of_false nofun fun hnot ↦ hnot hall, nofun⟩
  · have hnot := mt depthFirst_holds_iff.2 hfirst.not_forall
    exact ⟨iff_of_false nofun hnot, iff_of_true rfl hnot, fun _ ↦ ⟨reason, hfirst, rfl⟩⟩

def startedService : Fields :=
  [("name", .string "sshd"), ("unit", .object [
    ("user", .object [(Rule.typeKey, .string "string"), ("match", .string "root")]),
    ("enabled", .bool true)])]

def disabledService : Fields :=
  [("unit", .object [("enabled", .bool false), ("user", .string "root")]), ("name", .string "sshd"),
    ("running", .bool true)]

theorem run_startedService :
    Fields.Asks [(Rule.typeKey, .string "dict"), ("match", .object startedService)] .mapping "match"
      (.object startedService) ∧
    ∃ v, ((builtins Pattern.engine .default).run "check" (filterRule startedService)
      (.object disabledService)).result = .ok v ∧ v.outcome = .failed ∧
    v.message = shortfallMessage 2048 (.object disabledService)
      "unit.key 'enabled' expected true got false" ∧
    ∃ reason, FirstUnsatisfied ((builtins Pattern.engine .default).run "check") false 2048
      (depthFirst startedService disabledService) reason ∧
        v.message = shortfallMessage 2048 (.object disabledService) reason := by
  have hasks := filterRule_asks startedService
  have hrun : ((builtins Pattern.engine .default).run "check" (filterRule startedService)
      (.object disabledService)).result = .ok (.fail (shortfallMessage 2048
        (.object disabledService) "unit.key 'enabled' expected true got false")) := rfl
  exact ⟨hasks, _, hrun, rfl, rfl, (run_patternRule hasks hrun).2.2 rfl⟩

end Registry

end AuditRules
