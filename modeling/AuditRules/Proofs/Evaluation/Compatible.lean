import AuditRules.Proofs.Evaluation
import Mathlib.Data.List.Forall2

namespace AuditRules.Evaluation

variable {α β γ δ : Type} {R : α → β → Prop} {S : γ → δ → Prop}

/-- Results of both evaluations are related, if both have one. -/
def Compatible (R : α → β → Prop) (x : Evaluation α) (y : Evaluation β) : Prop :=
  ∀ a b, x.result = .ok a → y.result = .ok b → R a b

namespace Compatible

theorem refl (x : Evaluation α) : Compatible Eq x x := by
  intro a b ha hb
  rw [ha] at hb
  exact Except.ok.inj hb

theorem pure {a : α} {b : β} (h : R a b) : Compatible R (Pure.pure a) (Pure.pure b) := by
  intro c d hc hd
  rwa [← Except.ok.inj hc, ← Except.ok.inj hd]

theorem bind {x : Evaluation α} {y : Evaluation β} {f : α → Evaluation γ} {g : β → Evaluation δ}
    (h : Compatible R x y) (hf : ∀ a b, R a b → Compatible S (f a) (g b)) :
    Compatible S (x >>= f) (y >>= g) := by
  intro c d hc hd
  obtain ⟨a, ha, hc⟩ := exists_of_result_bind_ok hc
  obtain ⟨b, hb, hd⟩ := exists_of_result_bind_ok hd
  exact hf a b (h a b ha hb) c d hc hd

/-- A search that has found something and one that goes on find the same in the end. -/
theorem anyM {xs : List γ} {ys : List δ} {p : γ → Evaluation Bool} {q : δ → Evaluation Bool}
    (h : List.Forall₂ (fun x y ↦ Compatible Eq (p x) (q y)) xs ys) :
    Compatible Eq (xs.anyM p) (ys.anyM q) := by
  induction h with
  | nil => exact refl _
  | cons hxy _ ih =>
    refine bind hxy ?_
    rintro found _ rfl
    cases found with
    | true => exact refl _
    | false => exact ih

end Compatible

abbrev Implies (x y : Evaluation Bool) : Prop := Compatible (fun a b ↦ a = true → b = true) x y

namespace Implies

theorem refl (x : Evaluation Bool) : Implies x x := by
  intro a b ha hb htrue
  rw [← Compatible.refl x a b ha hb, htrue]

/-- Tests that succeed more often may end a search earlier, but not without success. -/
theorem anyM {p q : γ → Evaluation Bool} {xs : List γ} (h : ∀ x ∈ xs, Implies (p x) (q x)) :
    Implies (xs.anyM p) (xs.anyM q) := by
  induction xs with
  | nil => exact refl _
  | cons x xs ih =>
    have hrest : Implies (xs.anyM p) (xs.anyM q) := ih fun y hy ↦ h y (List.mem_cons_of_mem x hy)
    intro a b ha hb htrue
    obtain ⟨found, hx, ha⟩ := exists_of_result_bind_ok ha
    obtain ⟨found', hx', hb⟩ := exists_of_result_bind_ok hb
    cases found' with
    | true => exact (Except.ok.inj hb).symm
    | false =>
      cases found with
      | true => cases h x List.mem_cons_self true false hx hx' rfl
      | false => exact hrest a b ha hb htrue

end Implies

end AuditRules.Evaluation
