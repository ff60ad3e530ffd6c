import AuditRules.Proofs.Comparator.IgnoredCase
import AuditRules.Proofs.Registry.Lowered
import AuditRules.Proofs.Registry.Satisfies

namespace AuditRules

open Evaluation (Relaxes)

variable {engine : PatternEngine}

namespace Registry

open SequenceRule

variable {limits : Limits} {checkId : String} {n : Nat}

theorem context_eases (engine : PatternEngine) (limits : Limits) (checkId : String) (n : Nat) :
    Eases ((builtins engine limits).context checkId n) := by
  intro mode expected entries v w hv hw
  cases n with
  | zero => cases hv
  | succ n =>
    have hstrict := delegated_mappingRule engine limits checkId n mode expected false entries
    have hrelaxed := delegated_mappingRule engine limits checkId n mode expected true entries
    exact MappingRule.compareFields_relaxes mode expected _ entries v w (hstrict.symm.trans hv)
      (hrelaxed.symm.trans hw)

theorem someHit_ignoringCase {key : String} {args : List Fields} {items : List Value}
    (h : SomeHit ((builtins engine limits).context checkId n) false key args items .passed) :
    SomeHit ((builtins engine limits).context checkId n) true key args items .passed := by
  obtain ⟨item, hitem, arg, harg, hhit, v, hv, hpassed⟩ := h
  obtain ⟨entries, -, -, rfl, -⟩ := id hhit
  refine ⟨_, hitem, arg, harg, hhit, .checkPassed, ?_, rfl⟩
  cases n with
  | zero => cases hv
  | succ n =>
    have hstrict :=
      delegated_mappingRule engine limits checkId n .entries (.object arg) false entries
    have hrelaxed :=
      delegated_mappingRule engine limits checkId n .entries (.object arg) true entries
    exact hrelaxed.trans (MappingRule.compareFields_passed (hstrict.symm.trans hv)
      (by simp [Verdict.passed, hpassed]))

theorem compareKeyed_relaxes (key : String) (args : List Fields) (actual : Value)
    (items : List Value) :
    Relaxes (compareKeyed ((builtins engine limits).context checkId n) false key args actual items)
      (compareKeyed ((builtins engine limits).context checkId n) true key args actual items) := by
  intro v w hv hw hpassed
  cases ho : v.outcome with
  | failed => simp [Verdict.passed, ho] at hpassed
  | passed =>
    have hsome := (compareKeyed_ok hv).1.1 ho
    have hw := (compareKeyed_ok hw).1.2 (someHit_ignoringCase hsome)
    simp [Verdict.passed, hw]
  | notApplicable =>
    -- Case is minded in any event where elements are looked for.
    have hnone := compareKeyed_notApplicable
      (delegated_mappingRule_decided engine limits checkId n false) hv ho
    obtain ⟨w', hw', houtcome⟩ := compareKeyed_no_hit hnone actual
    obtain rfl := Except.ok.inj (hw.symm.trans hw')
    simp [Verdict.passed, houtcome]

/-- The modes in which rules may ignore case when they ask for texts to be equal. -/
def caseModes (engine : PatternEngine) : List (Comparator × String) := [
  (.text engine, "match"), (.text engine, "match_any"), (.mapping, "match"),
  (.mapping, "match_any"),
  (.sequence, "match_any"), (.sequence, "match_all"),
  (.sequence, "match_any_if_keyvalue_matches")]

variable {strict relaxed : Fields} {payload : Value}

theorem mem_builtin_of_caseModes {c : Comparator} {mode : String}
    (hmode : (c, mode) ∈ caseModes engine) : c ∈ builtin engine := by
  simp only [caseModes, List.mem_cons, Prod.mk.injEq, List.not_mem_nil, or_false] at hmode
  rcases hmode with ⟨rfl, -⟩ | ⟨rfl, -⟩ | ⟨rfl, -⟩ | ⟨rfl, -⟩ | ⟨rfl, -⟩ | ⟨rfl, -⟩ | ⟨rfl, -⟩ <;>
    simp [builtin]

theorem compare_relaxes_read {ctx : Context} {mode : String}
    (read : Value → Except RuleError ListRule) (hread : (mode, read) ∈ ListRule.modes)
    (hstrict : strict.Asks .sequence mode payload) (hrelaxed : relaxed.Asks .sequence mode payload)
    (hminds : (Rule.mk strict).ignoreCase = false)
    (hignores : (Rule.mk relaxed).ignoreCase = true)
    (h : ∀ parsed, read payload = .ok parsed → ∀ items,
      Relaxes (compareItems ctx parsed false (.array items) items)
        (compareItems ctx parsed true (.array items) items)) (actual : Value) :
    Relaxes (SequenceRule.compare ctx ⟨strict⟩ actual)
      (SequenceRule.compare ctx ⟨relaxed⟩ actual) := by
  have hparse := parse_asks read hrelaxed hread
  apply compare_relaxes ((parse_asks read hstrict hread).trans hparse.symm)
  rw [hparse, hminds, hignores]
  exact h

theorem evaluate_relaxes {c : Comparator} {mode : String} (hmode : (c, mode) ∈ caseModes engine)
    (hstrict : strict.Asks c mode payload) (hrelaxed : relaxed.Asks c mode payload)
    (hminds : (Rule.mk strict).ignoreCase = false)
    (hignores : (Rule.mk relaxed).ignoreCase = true) (limits : Limits) (checkId : String) (n : Nat)
    (actual : Value) :
    Relaxes ((builtins engine limits).evaluate checkId n (.object strict) actual)
      ((builtins engine limits).evaluate checkId n (.object relaxed) actual) := by
  have heases := context_eases engine limits checkId n
  have hbuiltin := mem_builtin_of_caseModes hmode
  rw [evaluate_asks hstrict hbuiltin, evaluate_asks hrelaxed hbuiltin]
  simp only [caseModes, List.mem_cons, Prod.mk.injEq, List.not_mem_nil, or_false] at hmode
  rcases hmode with ⟨rfl, rfl⟩ | ⟨rfl, rfl⟩ | ⟨rfl, rfl⟩ | ⟨rfl, rfl⟩ | ⟨rfl, rfl⟩ | ⟨rfl, rfl⟩ |
    ⟨rfl, rfl⟩
  · exact TextRule.compare_relaxes .equal (by simp) hstrict hrelaxed hminds hignores _ actual
  · exact TextRule.compare_relaxes .any (by simp) hstrict hrelaxed hminds hignores _ actual
  · exact MappingRule.compare_relaxes .entries hstrict hrelaxed hminds hignores actual
  · exact MappingRule.compare_relaxes .any hstrict hrelaxed hminds hignores actual
  · apply compare_relaxes_read (fun v ↦ ListRule.any <$> ListRule.items "match_any" v)
      (by simp [ListRule.modes]) hstrict hrelaxed hminds hignores
    intro parsed hparsed items
    obtain ⟨patterns, -, rfl⟩ := items_map_ok hparsed
    exact compareAny_relaxes heases patterns _ items
  · apply compare_relaxes_read (fun v ↦ ListRule.all <$> ListRule.items "match_all" v)
      (by simp [ListRule.modes]) hstrict hrelaxed hminds hignores
    intro parsed hparsed items
    obtain ⟨patterns, -, rfl⟩ := items_map_ok hparsed
    exact compareAll_relaxes heases _ items patterns
  · apply compare_relaxes_read (ListRule.keyedOf "match_any_if_keyvalue_matches")
      (by simp [ListRule.modes]) hstrict hrelaxed hminds hignores
    intro parsed hparsed items
    obtain ⟨key, args, rfl, -⟩ := keyedOf_ok hparsed
    exact compareKeyed_relaxes key args _ items

/-- What passes a rule that minds case does not fail it once case is ignored. Rules inside the
payload keep flags of their own. -/
theorem run_ignoringCase {c : Comparator} {mode : String} (hmode : (c, mode) ∈ caseModes engine)
    (hstrict : strict.Asks c mode payload) (hrelaxed : relaxed.Asks c mode payload)
    (hminds : (Rule.mk strict).ignoreCase = false)
    (hignores : (Rule.mk relaxed).ignoreCase = true) {actual : Value} {v w : Verdict}
    (hv : ((builtins engine limits).run checkId (.object strict) actual).result = .ok v)
    (hpassed : v.passed = true)
    (hw : ((builtins engine limits).run checkId (.object relaxed) actual).result = .ok w) :
    w.outcome ≠ .failed := by
  have hrelaxes := evaluate_relaxes hmode hstrict hrelaxed hminds hignores limits checkId
    limits.nesting actual
  have hw := hrelaxes v w hv hw hpassed
  simpa [Verdict.passed] using hw

def sshdPatterns : Value := .array
  [.object [("name", .string "SSHD"), ("running", .bool true)], .object [("name", .string "sshd")]]

def sshdRule (rest : Fields) : Fields :=
  (Rule.typeKey, .string "list") :: ("match_any", sshdPatterns) :: rest

theorem run_sshdRule :
    (Comparator.sequence, "match_any") ∈ caseModes Pattern.engine ∧
    (sshdRule []).Asks .sequence "match_any" sshdPatterns ∧
    (sshdRule [(Rule.ignoreCaseKey, .bool true)]).Asks .sequence "match_any" sshdPatterns ∧
    (Rule.mk (sshdRule [])).ignoreCase = false ∧
    (Rule.mk (sshdRule [(Rule.ignoreCaseKey, .bool true)])).ignoreCase = true ∧
    ∃ v w, ((builtins Pattern.engine .default).run "check" (.object (sshdRule []))
        (.array [activeService "sshd"])).result = .ok v ∧ v.passed = true ∧
      ((builtins Pattern.engine .default).run "check"
        (.object (sshdRule [(Rule.ignoreCaseKey, .bool true)]))
        (.array [activeService "sshd"])).result = .ok w ∧ w.outcome ≠ .failed := by
  have hmode : (Comparator.sequence, "match_any") ∈ caseModes Pattern.engine := by simp [caseModes]
  have hstrict : (sshdRule []).Asks .sequence "match_any" sshdPatterns :=
    Fields.asks_written (by decide) (by decide) (by decide) _
  have hrelaxed : (sshdRule [(Rule.ignoreCaseKey, .bool true)]).Asks .sequence "match_any"
      sshdPatterns := Fields.asks_written (by decide) (by decide) (by decide) _
  have hv : ((builtins Pattern.engine .default).run "check" (.object (sshdRule []))
      (.array [activeService "sshd"])).result = .ok .checkPassed := rfl
  have hw : ((builtins Pattern.engine .default).run "check"
      (.object (sshdRule [(Rule.ignoreCaseKey, .bool true)]))
      (.array [activeService "sshd"])).result = .ok .checkPassed := rfl
  exact ⟨hmode, hstrict, hrelaxed, rfl, rfl, _, _, hv, rfl, hw,
    run_ignoringCase hmode hstrict hrelaxed rfl rfl hv rfl hw⟩

def unreadableDaemon (rest : Fields) : Fields :=
  (Rule.typeKey, .string "dict") :: ("match_any", .array [
    .object [("name", .string "SSHD"), ("pid", .object [(Rule.typeKey, .string "process")])],
    .object [("name", .string "sshd")]]) :: rest

/-- Once case is ignored the search may come to a rule that was not reached, and err. -/
example :
    ((builtins Pattern.engine .default).run "check" (.object (unreadableDaemon []))
      (.object [("name", .string "sshd"), ("pid", .bool true)])).result = .ok .checkPassed ∧
    ((builtins Pattern.engine .default).run "check"
      (.object (unreadableDaemon [(Rule.ignoreCaseKey, .bool true)]))
      (.object [("name", .string "sshd"), ("pid", .bool true)])).result =
        .error (.unknownComparator "process") := ⟨rfl, rfl⟩

end Registry

end AuditRules
