import AuditRules.Pattern.Parser
import AuditRules.Proofs.Evaluation
import AuditRules.Registry

namespace AuditRules

variable {engine : PatternEngine}

namespace Rule

theorem typeTag_ok {fields : Fields} {tag : String} (h : (Rule.mk fields).typeTag = .ok tag) :
    fields.get? typeKey = some (.string tag) := by
  unfold typeTag at h
  split at h
  · rename_i s hs
    rw [hs, Except.ok.inj h]
  · cases h
  · cases h

theorem ofValue_ok {spec : Value} {rule : Rule} (h : Rule.ofValue spec = .ok rule) :
    spec = .object rule.fields := by
  cases spec with
  | object fields => rw [← Except.ok.inj h]
  | null | bool | number | string | array => cases h

theorem typeTag_local (rule : Rule) : Local rule.typeTag := by
  unfold typeTag
  split
  · exact .ok _
  · exact Local.error rfl
  · exact Local.error rfl

end Rule

namespace Registry

def builtins (engine : PatternEngine) (limits : Limits) : Registry where
  limits := limits
  table := [("number", .number), ("string", .text engine), ("boolean", .boolean),
    ("bool", .boolean), ("dict", .mapping), ("mapping", .mapping), ("list", .sequence)]

theorem standard_result (limits : Limits) :
    (standard engine limits).result = .ok (builtins engine limits) := rfl

/-- A rule that a comparator hands on with some levels remaining. -/
def delegated (r : Registry) (checkId : String) (remaining : Nat) (spec actual : Value) :
    Evaluation Verdict :=
  match remaining with
  | 0 => throw (.nestingTooDeep checkId r.limits.nesting)
  | remaining + 1 => r.evaluate checkId remaining spec actual

def context (r : Registry) (checkId : String) (remaining : Nat) : Context where
  checkId := checkId
  depth := r.limits.nesting - remaining
  renderLimit := r.limits.rendering
  delegate := r.delegated checkId remaining

theorem evaluate_eq (r : Registry) (checkId : String) (remaining : Nat) (spec actual : Value) :
    r.evaluate checkId remaining spec actual = (do
      let rule ← Rule.ofValue spec
      let comparator ← r.get (← rule.typeTag)
      comparator.compare (r.context checkId remaining) rule actual) := by
  cases remaining <;> rfl

theorem evaluate_tagged {r : Registry} {fields : Fields} {tag : String} {c : Comparator}
    (htag : fields.get? Rule.typeKey = some (.string tag)) (hc : r.get? tag = some c)
    (checkId : String) (remaining : Nat) (actual : Value) :
    r.evaluate checkId remaining (.object fields) actual =
      c.compare (r.context checkId remaining) ⟨fields⟩ actual := by
  have ht : (Rule.mk fields).typeTag = .ok tag := by simp only [Rule.typeTag, htag]
  have hg : r.get tag = .ok c := by simp only [get, hc]
  rw [evaluate_eq]
  simp only [Rule.ofValue, Evaluation.liftM_ok_bind, ht, hg]

/-- A rule that names a comparator of the registry goes to that one. Any other errs, whatever the
level it is evaluated at. -/
theorem evaluate_routes (r : Registry) (checkId : String) (remaining : Nat) (spec actual : Value) :
    (∃ e, (r.evaluate checkId remaining spec actual).result = .error e ∧ e.IsLocal) ∨
    ∃ (fields : Fields) (tag : String) (c : Comparator), spec = .object fields ∧
      fields.get? Rule.typeKey = some (.string tag) ∧ r.get? tag = some c ∧
      r.evaluate checkId remaining spec actual =
        c.compare (r.context checkId remaining) ⟨fields⟩ actual := by
  cases spec with
  | object fields =>
    cases ht : (Rule.mk fields).typeTag with
    | error e =>
      refine .inl ⟨e, ?_, (Rule.mk fields).typeTag_local e ht⟩
      rw [evaluate_eq]
      simp only [Rule.ofValue, Evaluation.liftM_ok_bind, ht]
      exact Evaluation.result_bind_error rfl _
    | ok tag =>
      have htag := Rule.typeTag_ok ht
      cases hc : r.get? tag with
      | some c =>
        exact .inr ⟨fields, tag, c, rfl, htag, hc, evaluate_tagged htag hc checkId remaining actual⟩
      | none =>
        refine .inl ⟨.unknownComparator tag, ?_, RuleError.isLocal_of_code rfl⟩
        rw [evaluate_eq]
        simp only [Rule.ofValue, Evaluation.liftM_ok_bind, ht, get, hc]
        exact Evaluation.result_bind_error rfl _
  | null | bool | number | string | array =>
    rw [evaluate_eq]
    exact .inl ⟨_, Evaluation.result_bind_error rfl _, RuleError.isLocal_of_code rfl⟩

theorem run_result (r : Registry) (checkId : String) (spec actual : Value) :
    (r.run checkId spec actual).result =
      (r.evaluate checkId r.limits.nesting spec actual).result := rfl

theorem mem_builtin {c : Comparator} : c ∈ builtin engine ↔
    c = .number ∨ c = .text engine ∨ c = .boolean ∨ c = .mapping ∨ c = .sequence := by
  simp only [builtin, List.mem_cons, List.not_mem_nil, or_false]

theorem get?_builtins {c : Comparator} (hc : c ∈ builtin engine) {tag : String} (ht : tag ∈ c.names)
    (limits : Limits) : (builtins engine limits).get? tag = some c := by
  rcases mem_builtin.1 hc with rfl | rfl | rfl | rfl | rfl <;>
    simp only [Comparator.names, Comparator.number, Comparator.text, Comparator.boolean,
      Comparator.mapping, Comparator.sequence, NumberRule.comparator, TextRule.comparator,
      BooleanRule.comparator, MappingRule.comparator, ListRule.comparator, List.mem_cons,
      List.not_mem_nil, or_false] at ht
  · subst ht; rfl
  · subst ht; rfl
  · rcases ht with rfl | rfl <;> rfl
  · rcases ht with rfl | rfl <;> rfl
  · subst ht; rfl

theorem mem_of_get? {r : Registry} {tag : String} {c : Comparator}
    (h : r.get? tag = some c) : (tag, c) ∈ r.table := by
  obtain ⟨before, after, htable, -⟩ := List.lookup_eq_some_iff.1 h
  rw [htable]
  exact List.mem_append_right before List.mem_cons_self

theorem of_get?_builtins {limits : Limits} {tag : String} {c : Comparator}
    (h : (builtins engine limits).get? tag = some c) : c ∈ builtin engine ∧ tag ∈ c.names := by
  have hmem := mem_of_get? h
  simp only [builtins, List.mem_cons, Prod.mk.injEq, List.not_mem_nil, or_false] at hmem
  rcases hmem with ⟨rfl, rfl⟩ | ⟨rfl, rfl⟩ | ⟨rfl, rfl⟩ | ⟨rfl, rfl⟩ | ⟨rfl, rfl⟩ | ⟨rfl, rfl⟩ |
      ⟨rfl, rfl⟩ <;>
    exact ⟨by simp [builtin], by first | decide | exact List.mem_cons_self⟩

end Registry

end AuditRules
