import AuditRules.StableSort

namespace AuditRules

open Std (LawfulEqCmp OrientedCmp TransCmp)

variable {α β : Type} {before : α → α → Bool} {le : α → α → Prop}

theorem IsOrderOn.of_key {order : α → α → Ordering} (cmp : β → β → Ordering) [TransCmp cmp]
    {key : α → β} {xs : List α} (h : ∀ a ∈ xs, ∀ b ∈ xs, order a b = cmp (key a) (key b)) :
    IsOrderOn order xs := by
  refine ⟨fun a ha b hb ↦ ?_, fun a ha b hb c hc hab hbc ↦ ?_⟩
  · rw [h a ha b hb, h b hb a ha]
    exact OrientedCmp.eq_swap
  · rw [h a ha b hb] at hab
    rw [h b hb c hc] at hbc
    rw [h a ha c hc]
    exact TransCmp.isLE_trans hab hbc

theorem sortBy_eq_some {order : α → α → Ordering} {xs : List α}
    (h : xs.length ≤ 20 ∨ IsOrderOn order xs) :
    sortBy order xs = some (insertionSort (order · · == .lt) xs) := if_pos h

theorem sortBy_perm {order : α → α → Ordering} {xs sorted : List α}
    (h : sortBy order xs = some sorted) : sorted.Perm xs := by
  unfold sortBy at h
  split at h
  · rw [← Option.some.inj h]
    exact insertionSort_perm _ xs
  · cases h

theorem insertLast_pairwise (htrans : ∀ a b c, le a b → le b c → le a c) {x : α} {ys : List α}
    (hx : ∀ y ∈ ys, if before x y then le x y else le y x)
    (hys : ys.Pairwise fun a b ↦ le b a) :
    (insertLast before x ys).Pairwise fun a b ↦ le b a := by
  induction ys with
  | nil => exact List.pairwise_singleton _ x
  | cons y ys ih =>
    obtain ⟨hy, hrest⟩ := List.pairwise_cons.1 hys
    have hxy := hx y List.mem_cons_self
    unfold insertLast
    split
    · rename_i hlt
      rw [if_pos hlt] at hxy
      have htail := ih (fun z hz ↦ hx z (List.mem_cons_of_mem y hz)) hrest
      refine List.pairwise_cons.2 ⟨fun z hz ↦ ?_, htail⟩
      rcases List.mem_cons.1 ((insertLast_perm before x ys).mem_iff.1 hz) with rfl | hz
      · exact hxy
      · exact hy z hz
    · rename_i hlt
      rw [if_neg hlt] at hxy
      refine List.pairwise_cons.2 ⟨fun z hz ↦ ?_, hys⟩
      rcases List.mem_cons.1 hz with rfl | hz
      · exact hxy
      · exact htrans z y x (hy z hz) hxy

theorem insertionSort_pairwise (htrans : ∀ a b c, le a b → le b c → le a c) {xs : List α}
    (h : ∀ a ∈ xs, ∀ b ∈ xs, if before a b then le a b else le b a) :
    (insertionSort before xs).Pairwise le := by
  have hfold (ys rest : List α) (hmem : ∀ a ∈ ys ++ rest, a ∈ xs)
      (hys : ys.Pairwise fun a b ↦ le b a) :
      (rest.foldl (fun sorted x ↦ insertLast before x sorted) ys).Pairwise fun a b ↦ le b a := by
    induction rest generalizing ys with
    | nil => exact hys
    | cons x rest ih =>
      have hx : x ∈ xs := hmem x (by simp)
      refine ih _ (fun a ha ↦ hmem a ?_) (insertLast_pairwise htrans (fun y hy ↦ ?_) hys)
      · exact (((insertLast_perm before x ys).append_right rest).trans
          List.perm_middle.symm).mem_iff.1 ha
      · exact h x hx y (hmem y (by simp [hy]))
  exact List.pairwise_reverse.2 (hfold [] xs (fun a ha ↦ ha) .nil)

theorem insertLast_map {before' : β → β → Bool} {f : α → β}
    (h : ∀ a b, before' (f a) (f b) = before a b) (x : α) (ys : List α) :
    insertLast before' (f x) (ys.map f) = (insertLast before x ys).map f := by
  induction ys with
  | nil => rfl
  | cons y ys ih =>
    rw [List.map_cons, insertLast, insertLast, h]
    split
    · rw [ih, List.map_cons]
    · rfl

/-- What the comparison does not see may be changed before or after. -/
theorem insertionSort_map {before' : β → β → Bool} {f : α → β}
    (h : ∀ a b, before' (f a) (f b) = before a b) (xs : List α) :
    insertionSort before' (xs.map f) = (insertionSort before xs).map f := by
  have hfold (ys : List α) :
      (xs.map f).foldl (fun sorted x ↦ insertLast before' x sorted) (ys.map f) =
        (xs.foldl (fun sorted x ↦ insertLast before x sorted) ys).map f := by
    induction xs generalizing ys with
    | nil => rfl
    | cons x xs ih =>
      rw [List.map_cons, List.foldl_cons, List.foldl_cons, insertLast_map h]
      exact ih _
  rw [insertionSort, insertionSort, List.map_reverse, ← hfold []]
  rfl

/-- Sorting by texts that are all different puts them in their strict order. -/
theorem insertionSort_increasing (key : α → String) {xs : List α} (hkeys : (xs.map key).Nodup) :
    ((insertionSort (fun a b ↦ decide (key a < key b)) xs).map key).Pairwise (· < ·) := by
  have hsorted : (insertionSort (fun a b ↦ decide (key a < key b)) xs).Pairwise fun a b ↦
      key a ≤ key b := by
    have htrans (a b c : α) : key a ≤ key b → key b ≤ key c → key a ≤ key c := String.le_trans
    refine insertionSort_pairwise htrans fun a _ b _ ↦ ?_
    by_cases hlt : key a < key b
    · rw [decide_eq_true hlt, if_pos rfl]
      exact String.not_lt.1 (String.lt_asymm hlt)
    · rw [decide_eq_false hlt, if_neg Bool.false_ne_true]
      exact String.not_lt.1 hlt
  have hnodup :=
    hkeys.perm ((insertionSort_perm (fun a b ↦ decide (key a < key b)) xs).map key).symm
  refine ((List.pairwise_map.2 hsorted).and hnodup).imp fun ⟨hle, hne⟩ ↦ ?_
  exact String.not_le.1 fun hge ↦ hne (String.le_antisymm hle hge)

/-- Sorting by a key forgets the order of the list, as far as the keys go. -/
theorem map_insertionSort_perm (cmp : β → β → Ordering) [TransCmp cmp] [LawfulEqCmp cmp]
    {key : α → β} {xs ys : List α} (hperm : ys.Perm xs)
    (h : ∀ a ∈ xs, ∀ b ∈ xs, before a b = (cmp (key a) (key b) == .lt)) :
    (insertionSort before ys).map key = (insertionSort before xs).map key := by
  have hsorted (zs : List α) (hzs : ∀ a ∈ zs, a ∈ xs) :
      ((insertionSort before zs).map key).Pairwise fun k l ↦ (cmp k l).isLE := by
    refine List.pairwise_map.2 (insertionSort_pairwise (fun a b c ↦ TransCmp.isLE_trans) ?_)
    intro a ha b hb
    have hswap : cmp (key b) (key a) = (cmp (key a) (key b)).swap := OrientedCmp.eq_swap
    rw [h a (hzs a ha) b (hzs b hb), hswap]
    cases cmp (key a) (key b) <;> decide
  refine List.Perm.eq_of_pairwise ?_ (hsorted ys fun a ha ↦ hperm.mem_iff.1 ha)
    (hsorted xs fun a ha ↦ ha) ?_
  · exact fun k l _ _ hkl hlk ↦ LawfulEqCmp.eq_of_compare (OrientedCmp.isLE_antisymm hkl hlk)
  · exact (((insertionSort_perm before ys).trans hperm).trans
      (insertionSort_perm before xs).symm).map key

end AuditRules
