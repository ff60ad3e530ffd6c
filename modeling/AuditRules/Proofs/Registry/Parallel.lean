import AuditRules.Proofs.Registry.Related

namespace AuditRules

open Evaluation (Related)

/-- Every rule is answered as some rule is on some value. Both may be made from all that the
comparator is called with, but it hands on just once. -/
def Comparator.Forwards (c : Comparator) : Prop :=
  ∃ target : Site → Rule → Value → Value × Value, ∀ ctx rule actual, c.compare ctx rule actual =
    ctx.delegate (target ctx.toSite rule actual).1 (target ctx.toSite rule actual).2

theorem Comparator.forwarding_forwards (tag : String) (aliases modes : List String)
    (target : Value) : (forwarding tag aliases modes target).Forwards :=
  ⟨fun _ _ actual ↦ (target, actual), fun _ _ _ ↦ rfl⟩

theorem Comparator.Forwards.respectsAt {L : Likeness} {c : Comparator} (h : c.Forwards) :
    c.RespectsAt L := by
  obtain ⟨target, htarget⟩ := h
  intro ctx ctx' hsite hctx rule v
  rw [htarget, htarget, ← hsite]
  exact hctx.delegate _ _

def Comparator.Immediate (c : Comparator) : Prop :=
  ∃ answer : Site → Rule → Value → Verdict, ∀ ctx rule actual,
    c.compare ctx rule actual = pure (answer ctx.toSite rule actual)

theorem Comparator.fixed_immediate (tag : String) (aliases modes : List String)
    (outcome : Outcome) (message : Site → Rule → Value → String) :
    (fixed tag aliases modes outcome message).Immediate :=
  ⟨fun site rule actual ↦ ⟨outcome, message site rule actual⟩, fun _ _ _ ↦ rfl⟩

theorem Comparator.Immediate.respectsAt {L : Likeness} {c : Comparator} (h : c.Immediate) :
    c.RespectsAt L := by
  obtain ⟨answer, hanswer⟩ := h
  intro ctx ctx' hsite _ rule v
  rw [hanswer, hanswer, ← hsite]
  exact .pure (Likeness.verdicts_refl _)

namespace Registry

/-- The second registry finds what the first one finds and renders values as it does, and the
comparators keep a likeness at each site. -/
structure Parallel (L : Likeness) (r r' : Registry) : Prop where
  get : ∀ tag c, r.get? tag = some c → r'.get? tag = some c
  unknown : ∀ tag, r.get? tag = none → r'.get? tag = none ∨ L.excused (.unknownComparator tag)
  respects : ∀ tag c, r.get? tag = some c → c.RespectsAt L
  rendering : r.limits.rendering = r'.limits.rendering

variable {L : Likeness} {r r' : Registry} {checkId : String} {more : Nat}

/-- One step, from a depth at which the second registry has so many more levels left. -/
theorem evaluate_parallel_step (hr : r.Parallel L r')
    (hmore : r'.limits.nesting = r.limits.nesting + more) {n : Nat}
    (h : (r.context checkId n).Alike L (r'.context checkId (n + more))) (spec v : Value) :
    Related L L.verdicts (r.evaluate checkId n spec v)
      (r'.evaluate checkId (n + more) spec v) := by
  have hsite : (r.context checkId n).toSite = (r'.context checkId (n + more)).toSite := by
    simp only [context, hmore, hr.rendering, Nat.add_sub_add_right]
  exact evaluate_related_of_compare hr.get hr.unknown
    fun _ tag c _ _ hc ↦ hr.respects tag c hc hsite h _ v

theorem context_parallel (hr : r.Parallel L r')
    (hmore : r'.limits.nesting = r.limits.nesting + more)
    (h : more = 0 ∨ L.excused (.nestingTooDeep checkId r.limits.nesting)) (n : Nat) :
    (r.context checkId n).Alike L (r'.context checkId (n + more)) := by
  have hrender (v : Value) : L.texts (v.render r.limits.rendering)
      (v.render r'.limits.rendering) := hr.rendering ▸ L.texts_refl _
  induction n with
  | zero =>
    refine ⟨hrender, fun spec v ↦ ?_⟩
    -- The first registry has no level left, the second one has `more`.
    rcases h with rfl | h
    · refine .of_error rfl rfl ?_
      rw [hmore]
      exact L.errors_refl _
    · exact .of_excused rfl h _
  | succ n ih =>
    refine ⟨hrender, fun spec v ↦ ?_⟩
    rw [Nat.add_right_comm]
    exact evaluate_parallel_step hr hmore ih spec v

/-- A whole run: parallel registries answer every rule alike. -/
theorem evaluate_parallel (hr : r.Parallel L r')
    (hmore : r'.limits.nesting = r.limits.nesting + more)
    (h : more = 0 ∨ L.excused (.nestingTooDeep checkId r.limits.nesting)) (n : Nat)
    (spec v : Value) : Related L L.verdicts (r.evaluate checkId n spec v)
      (r'.evaluate checkId (n + more) spec v) :=
  evaluate_parallel_step hr hmore (context_parallel hr hmore h n) spec v

end Registry

end AuditRules
