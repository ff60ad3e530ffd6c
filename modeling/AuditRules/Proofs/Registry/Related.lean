import AuditRules.Proofs.Comparator.Related

namespace AuditRules

open Evaluation (Related)

variable {engine : PatternEngine}

namespace Registry

structure Alike (L : Likeness) (r r' : Registry) : Prop where
  get : ∀ tag c, r.get? tag = some c → r'.get? tag = some c
  unknown : ∀ tag, r.get? tag = none → r'.get? tag = none ∨ L.excused (.unknownComparator tag)
  respects : ∀ tag c, r.get? tag = some c → c.Respects L
  render : ∀ v : Value, L.texts (v.render r.limits.rendering) (v.render r'.limits.rendering)

/-- Levels that remain for two runs: the first may have fewer if running out of them is excused. -/
def Levels (L : Likeness) (e e' : RuleError) (n m : Nat) : Prop :=
  (n ≤ m ∧ L.excused e) ∨ (n = m ∧ L.errors e e')

theorem Levels.pred {L : Likeness} {e e' : RuleError} {n m : Nat}
    (h : Levels L e e' (n + 1) m) : ∃ k, m = k + 1 ∧ Levels L e e' n k := by
  cases m with
  | zero => rcases h with ⟨h, _⟩ | ⟨h, _⟩ <;> omega
  | succ k =>
    refine ⟨k, rfl, h.imp ?_ ?_⟩
    · exact fun ⟨hle, he⟩ ↦ ⟨by omega, he⟩
    · exact fun ⟨heq, he⟩ ↦ ⟨by omega, he⟩

variable {L : Likeness} {r r' : Registry} {checkId checkId' : String}

/-- A rule is routed by itself, so it is answered alike if its comparator answers it alike. -/
theorem evaluate_related_of_compare
    (hget : ∀ tag c, r.get? tag = some c → r'.get? tag = some c)
    (hunknown : ∀ tag, r.get? tag = none →
      r'.get? tag = none ∨ L.excused (.unknownComparator tag)) {n m : Nat} {spec v w : Value}
    (hcompare : ∀ (fields : Fields) tag c, spec = .object fields →
      fields.get? Rule.typeKey = some (.string tag) → r.get? tag = some c →
      Related L L.verdicts (c.compare (r.context checkId n) ⟨fields⟩ v)
        (c.compare (r'.context checkId' m) ⟨fields⟩ w)) :
    Related L L.verdicts (r.evaluate checkId n spec v) (r'.evaluate checkId' m spec w) := by
  rw [evaluate_eq, evaluate_eq]
  refine .bind (.liftM_eq _) fun rule rule' hrule ↦ ?_
  obtain ⟨rfl, hrule⟩ := hrule
  refine .bind (.liftM_eq _) fun tag tag' htag ↦ ?_
  obtain ⟨rfl, htag⟩ := htag
  cases hc : r.get? tag with
  | some c =>
    have hfound : r.get tag = .ok c := by simp only [get, hc]
    have hfound' : r'.get tag = .ok c := by simp only [get, hget tag c hc]
    rw [hfound, hfound', Evaluation.liftM_ok_bind, Evaluation.liftM_ok_bind]
    exact hcompare rule.fields tag c (Rule.ofValue_ok hrule) (Rule.typeTag_ok htag) hc
  | none =>
    have hmissing : (liftM (r.get tag) : Evaluation Comparator).result =
        .error (.unknownComparator tag) := by
      simp only [get, hc, Evaluation.result_liftM]
    rcases hunknown tag hc with hnone | hexcused
    · have hmissing' : (liftM (r'.get tag) : Evaluation Comparator).result =
          .error (.unknownComparator tag) := by
        simp only [get, hnone, Evaluation.result_liftM]
      exact .of_error (Evaluation.result_bind_error hmissing _)
        (Evaluation.result_bind_error hmissing' _) (L.errors_refl _)
    · exact .of_excused (Evaluation.result_bind_error hmissing _) hexcused _

/-- One step: alike contexts give alike evaluations. -/
theorem evaluate_related_step (hr : r.Alike L r') {n m : Nat}
    (h : (r.context checkId n).Alike L (r'.context checkId' m)) (spec v : Value) :
    Related L L.verdicts (r.evaluate checkId n spec v) (r'.evaluate checkId' m spec v) :=
  evaluate_related_of_compare hr.get hr.unknown
    fun _ tag c _ _ hc ↦ hr.respects tag c hc h _ v

theorem context_alike (hr : r.Alike L r') {n m : Nat}
    (h : Levels L (.nestingTooDeep checkId r.limits.nesting)
      (.nestingTooDeep checkId' r'.limits.nesting) n m) :
    (r.context checkId n).Alike L (r'.context checkId' m) := by
  induction n generalizing m with
  | zero =>
    refine ⟨hr.render, fun spec v ↦ ?_⟩
    rcases h with ⟨_, he⟩ | ⟨rfl, he⟩
    · exact .of_excused rfl he _
    · exact .of_error rfl rfl he
  | succ n ih =>
    obtain ⟨k, rfl, hk⟩ := h.pred
    exact ⟨hr.render, evaluate_related_step hr (ih hk)⟩

/-- A whole run: registries alike, with levels alike, answer every rule alike. -/
theorem evaluate_related (hr : r.Alike L r') {n m : Nat}
    (h : Levels L (.nestingTooDeep checkId r.limits.nesting)
      (.nestingTooDeep checkId' r'.limits.nesting) n m) (spec v : Value) :
    Related L L.verdicts (r.evaluate checkId n spec v) (r'.evaluate checkId' m spec v) :=
  evaluate_related_step hr (context_alike hr h) spec v

def deeper : Likeness := .unless RuleError.IsTooDeep fun _ h ↦ h.isLocal.1

theorem related_deeper {x y : Evaluation Verdict} (h : Related deeper deeper.verdicts x y) :
    x.TooDeep ∨ x.result = y.result :=
  Evaluation.related_unless h

theorem builtins_alike {L : Likeness} {limits limits' : Limits} (h : ∀ v : Value,
      L.texts (v.render limits.rendering) (v.render limits'.rendering)) :
    (builtins engine limits).Alike L (builtins engine limits') where
  get _ _ hc := hc
  unknown _ hc := .inl hc
  respects _ _ hc := builtin_respects (of_get?_builtins hc).1
  render := h

/-- With more levels a built-in rule is answered the same, unless it nested too deeply before. -/
theorem evaluate_deeper (limits : Limits) (checkId : String) {n m : Nat} (h : n ≤ m)
    (spec v : Value) :
    ((builtins engine limits).evaluate checkId n spec v).TooDeep ∨
    ((builtins engine limits).evaluate checkId n spec v).result =
      ((builtins engine limits).evaluate checkId m spec v).result :=
  have halike : (builtins engine limits).Alike deeper (builtins engine limits) :=
    builtins_alike fun _ ↦ rfl
  related_deeper (evaluate_related halike (.inl ⟨h, checkId, _, rfl⟩) spec v)

theorem delegated_deeper (limits : Limits) (checkId : String) (n : Nat) (spec v : Value) :
    ((builtins engine limits).delegated checkId n spec v).TooDeep ∨
    ((builtins engine limits).delegated checkId n spec v).result =
      ((builtins engine limits).evaluate checkId n spec v).result := by
  cases n with
  | zero => exact .inl ⟨_, rfl, checkId, _, rfl⟩
  | succ n => exact evaluate_deeper limits checkId (Nat.le_succ n) spec v

end Registry

end AuditRules
