import AuditRules.Proofs.Comparator.Exactly
import AuditRules.Proofs.Comparator.Satisfies
import AuditRules.Proofs.Registry.Inapplicable
import AuditRules.Proofs.Value.Symmetry
import Mathlib.Data.List.Perm.Basic
import Mathlib.Logic.Equiv.Fin.Basic

namespace AuditRules

variable {engine : PatternEngine}

theorem exists_equiv_of_perm {α : Type} {xs ys : List α} (h : xs.Perm ys) :
    ∃ σ : Fin xs.length ≃ Fin ys.length, ∀ i, ys.get (σ i) = xs.get i := by
  classical
  let σ : Fin xs.length ≃ Fin ys.length := {
    toFun := h.idxBij
    invFun := h.symm.idxBij
    left_inv := h.symm.idxBij_leftInverse_idxBij_symm
    right_inv := h.idxBij_leftInverse_idxBij_symm }
  exact ⟨σ, fun i ↦ h.getElem_idxBij_eq_getElem i⟩

def Paired (xs ys : List Value) : Prop :=
  ∃ σ : Fin xs.length ≃ Fin ys.length, ∀ i, (xs.get i).equal (ys.get (σ i)) = true

theorem paired_of_forall₂ {xs ys : List Value}
    (h : List.Forall₂ (fun x y ↦ x.equal y = true) xs ys) : Paired xs ys := by
  refine ⟨finCongr h.length_eq, ?_⟩
  intro i
  exact h.get i.isLt _

theorem Paired.trans_perm {xs ys zs : List Value} (h : Paired xs ys) (hperm : ys.Perm zs) :
    Paired xs zs := by
  obtain ⟨σ, hσ⟩ := h
  obtain ⟨τ, hτ⟩ := exists_equiv_of_perm hperm
  refine ⟨σ.trans τ, ?_⟩
  intro i
  rw [Equiv.trans_apply, hτ]
  exact hσ i

namespace SequenceRule

theorem paired_of_equalSorted {key : Option String} {xs ys : List Value}
    (h : equalSorted key xs ys = .ok true) : Paired xs ys := by
  obtain ⟨xs', hxs, h⟩ := exists_of_bind_ok h
  obtain ⟨ys', hys, h⟩ := exists_of_bind_ok h
  have hequal := equalItems_iff_forall₂.1 (Except.ok.inj h)
  obtain ⟨zs, hzs, hperm⟩ := List.perm_comp_forall₂ (sortItems_perm hxs).symm hequal
  have hpaired := paired_of_forall₂ hzs
  exact hpaired.trans_perm (hperm.trans (sortItems_perm hys))

theorem passesNumber_true {ctx : Context} {rule : Value} {n : Int}
    (h : (passesNumber ctx rule n).result = .ok true) :
    ∃ v, (ctx.delegate rule (.ofInt n)).result = .ok v ∧ v.passed = true := by
  unfold passesNumber at h
  cases hpasses : (passes ctx rule (.ofInt n)).result with
  | ok passed =>
    rw [Evaluation.result_tryCatch_ok hpasses] at h
    obtain ⟨v, hv, hpassed⟩ := Evaluation.exists_of_result_bind_ok hpasses
    exact ⟨v, hv, (Except.ok.inj hpassed).trans (Except.ok.inj h)⟩
  | error e =>
    -- What is taken back counts as not passed, and any other error stays one.
    rw [Evaluation.result_tryCatch_error hpasses] at h
    split at h
    · cases h
    · cases h

def SettledByFirst (delegate : Value → Value → Evaluation Verdict) (items expected : List Value) :
    Prop :=
  ∃ first rest n e others v, items = first :: rest ∧ first.shape = .whole n ∧
    expected = e :: others ∧ (delegate (numberRule "match" e) (.ofInt n)).result = .ok v ∧
      v.passed = true

theorem compareExactly_passed {ctx : Context} {expected items : List Value} {actual : Value}
    {v : Verdict} (hv : (compareExactly ctx expected actual items).result = .ok v)
    (hpassed : v.passed = true) :
    items ≠ [] ∧ (SettledByFirst ctx.delegate items expected ∨ Paired items expected) := by
  cases items with
  | nil =>
    obtain ⟨-, -, hv⟩ := Evaluation.exists_of_result_bind_ok hv
    rw [← Except.ok.inj hv] at hpassed
    cases hpassed
  | cons first rest =>
    refine ⟨by simp, ?_⟩
    rw [compareExactly_cons] at hv
    obtain ⟨settled, hsettled, hv⟩ := Evaluation.exists_of_result_bind_ok hv
    cases settled with
    | true =>
      unfold firstSettles at hsettled
      cases hshape : first.shape with
      | whole n =>
        rw [hshape] at hsettled
        cases expected with
        | nil => cases hsettled
        | cons e others =>
          obtain ⟨w, hw, hpasses⟩ := passesNumber_true hsettled
          exact .inl ⟨first, rest, n, e, others, w, rfl, hshape, rfl, hw, hpasses⟩
      | mapping | other =>
        rw [hshape] at hsettled
        cases hsettled
    | false =>
      obtain ⟨found, hfound, hv⟩ := Evaluation.exists_of_result_bind_ok hv
      rw [← Except.ok.inj hv, Verdict.passed_ofBool] at hpassed
      exact .inr (paired_of_equalSorted (hpassed ▸ hfound))

end SequenceRule

namespace Registry

open SequenceRule

variable {limits : Limits} {checkId : String}

theorem settledByFirst_of_delegated {items expected : List Value}
    (h : SettledByFirst ((builtins engine limits).delegated checkId limits.nesting) items
      expected) :
    SettledByFirst ((builtins engine limits).run checkId) items expected := by
  obtain ⟨first, rest, n, e, others, v, hitems, hshape, hexpected, hv, hpassed⟩ := h
  have hrun := delegated_ok (Nat.le_refl limits.nesting) hv
  exact ⟨first, rest, n, e, others, v, hitems, hshape, hexpected, hrun, hpassed⟩

end Registry

end AuditRules
