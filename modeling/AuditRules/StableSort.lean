
namespace AuditRules

variable {α : Type}

def insertLast (before : α → α → Bool) (x : α) : List α → List α
  | [] => [x]
  | y :: ys => if before x y then y :: insertLast before x ys else x :: y :: ys

/-- Sorts a list from first to last; elements none of which precedes another keep their order. -/
def insertionSort (before : α → α → Bool) (xs : List α) : List α :=
  (xs.foldl (fun sorted x ↦ insertLast before x sorted) []).reverse

/-- A comparison orders the elements of a list, some of which may tie. -/
structure IsOrderOn (cmp : α → α → Ordering) (xs : List α) : Prop where
  swap : ∀ a ∈ xs, ∀ b ∈ xs, cmp b a = (cmp a b).swap
  trans : ∀ a ∈ xs, ∀ b ∈ xs, ∀ c ∈ xs, (cmp a b).isLE → (cmp b c).isLE → (cmp a c).isLE

/-- How many elements of a list precede a given one. -/
def rankIn (cmp : α → α → Ordering) (xs : List α) (a : α) : Nat := xs.countP (cmp · a == .lt)

theorem countP_lt {p q : α → Bool} {xs : List α} (h : ∀ x ∈ xs, p x = true → q x = true) {a : α}
    (ha : a ∈ xs) (hp : p a = false) (hq : q a = true) : xs.countP p < xs.countP q := by
  obtain ⟨before, after, rfl⟩ := List.append_of_mem ha
  have hbefore : before.countP p ≤ before.countP q :=
    List.countP_mono_left fun x hx ↦ h x (List.mem_append_left _ hx)
  have hafter : after.countP p ≤ after.countP q :=
    List.countP_mono_left fun x hx ↦ h x (List.mem_append_right _ (List.mem_cons_of_mem _ hx))
  rw [List.countP_append, List.countP_append, List.countP_cons_of_neg (by simp [hp]),
    List.countP_cons_of_pos hq]
  omega

namespace IsOrderOn

variable {cmp : α → α → Ordering} {xs : List α}

theorem self (h : IsOrderOn cmp xs) {a : α} (ha : a ∈ xs) : cmp a a = .eq := by
  have hswap := h.swap a ha a ha
  cases hcmp : cmp a a with
  | eq => rfl
  | lt | gt => rw [hcmp] at hswap; cases hswap

theorem lt_trans (h : IsOrderOn cmp xs) {a b c : α} (ha : a ∈ xs) (hb : b ∈ xs) (hc : c ∈ xs)
    (hab : cmp a b = .lt) (hbc : (cmp b c).isLE) : cmp a c = .lt := by
  cases hac : cmp a c with
  | lt => rfl
  | eq | gt =>
    have hca : (cmp c a).isLE := by rw [h.swap a ha c hc, hac]; rfl
    have hba := h.trans b hb c hc a ha hbc hca
    rw [h.swap a ha b hb, hab] at hba
    cases hba

theorem rankIn_le (h : IsOrderOn cmp xs) {a b : α} (ha : a ∈ xs) (hb : b ∈ xs)
    (hab : (cmp a b).isLE) : rankIn cmp xs a ≤ rankIn cmp xs b := by
  refine List.countP_mono_left fun x hx hxa ↦ ?_
  rw [beq_iff_eq] at hxa ⊢
  exact h.lt_trans hx ha hb hxa hab

theorem rankIn_lt (h : IsOrderOn cmp xs) {a b : α} (ha : a ∈ xs) (hb : b ∈ xs)
    (hab : cmp a b = .lt) : rankIn cmp xs a < rankIn cmp xs b := by
  refine countP_lt (fun x hx hxa ↦ ?_) ha (by rw [h.self ha]; rfl) (by rw [hab]; rfl)
  rw [beq_iff_eq] at hxa ⊢
  exact h.lt_trans hx ha hb hxa (by rw [hab]; rfl)

/-- A comparison is an order of some elements just if it is that of their ranks. -/
theorem iff_rankIn : IsOrderOn cmp xs ↔
    ∀ a ∈ xs, ∀ b ∈ xs, cmp a b = compare (rankIn cmp xs a) (rankIn cmp xs b) := by
  constructor
  · intro h a ha b hb
    cases hab : cmp a b with
    | lt => exact (Nat.compare_eq_lt.2 (h.rankIn_lt ha hb hab)).symm
    | gt =>
      have hba : cmp b a = .lt := by rw [h.swap a ha b hb, hab]; rfl
      exact (Nat.compare_eq_gt.2 (h.rankIn_lt hb ha hba)).symm
    | eq =>
      have hba : cmp b a = .eq := by rw [h.swap a ha b hb, hab]; rfl
      refine (Nat.compare_eq_eq.2 (Nat.le_antisymm ?_ ?_)).symm
      · exact h.rankIn_le ha hb (by rw [hab]; rfl)
      · exact h.rankIn_le hb ha (by rw [hba]; rfl)
  · intro h
    refine ⟨fun a ha b hb ↦ ?_, fun a ha b hb c hc hab hbc ↦ ?_⟩
    · rw [h a ha b hb, h b hb a ha, Nat.compare_swap]
    · rw [h a ha b hb, Nat.isLE_compare] at hab
      rw [h b hb c hc, Nat.isLE_compare] at hbc
      rw [h a ha c hc, Nat.isLE_compare]
      exact Nat.le_trans hab hbc

def test (cmp : α → α → Ordering) (xs : List α) : Bool :=
  let ranked := xs.map fun a ↦ (a, rankIn cmp xs a)
  ranked.all fun a ↦ ranked.all fun b ↦ cmp a.1 b.1 == compare a.2 b.2

theorem test_iff : test cmp xs = true ↔ IsOrderOn cmp xs := by
  simp [test, iff_rankIn]

instance : Decidable (IsOrderOn cmp xs) := decidable_of_iff _ test_iff

end IsOrderOn

/-- Sorts a list in a stable way. A list of more elements than are sorted by insertion has no
result unless the comparison is an order of them. -/
def sortBy (cmp : α → α → Ordering) (xs : List α) : Option (List α) :=
  if xs.length ≤ 20 ∨ IsOrderOn cmp xs then some (insertionSort (cmp · · == .lt) xs) else none

theorem insertLast_perm (before : α → α → Bool) (x : α) (ys : List α) :
    (insertLast before x ys).Perm (x :: ys) := by
  induction ys with
  | nil => exact .refl _
  | cons y ys ih =>
    unfold insertLast
    split
    · exact (ih.cons y).trans (.swap x y ys)
    · exact .refl _

theorem insertionSort_perm (before : α → α → Bool) (xs : List α) :
    (insertionSort before xs).Perm xs := by
  have h (ys : List α) :
      (xs.foldl (fun sorted x ↦ insertLast before x sorted) ys).Perm (xs ++ ys) := by
    induction xs generalizing ys with
    | nil => exact .refl _
    | cons x xs ih =>
      refine (ih _).trans ?_
      exact ((insertLast_perm before x ys).append_left xs).trans List.perm_middle
  simpa [insertionSort] using (List.reverse_perm _).trans (h [])

end AuditRules
