import AuditRules.Proofs.Binary64
import AuditRules.Value.Equality
import AuditRules.Value.Order

namespace AuditRules

namespace Number

def IsJson : Number → Prop
  | integer n => -0x8000000000000000 ≤ n ∧ n < 0x10000000000000000
  | double _ => True

def quanta : Number → Int
  | integer n => Binary64.nearestInt n
  | double x => x.signed

theorem quantity_finite {n : Number} (h : n.IsJson) :
    ∃ x, n.quantity = .finite x ∧ x.signed = n.quanta := by
  cases n with
  | integer n =>
    obtain ⟨hmin, hmax⟩ := h
    exact Quantity.ofInt_finite (by omega)
  | double x => exact ⟨x, rfl, rfl⟩

theorem compare?_quantity {a b : Number} (ha : a.IsJson) (hb : b.IsJson) :
    a.quantity.compare? b.quantity = some (compare a.quanta b.quanta) := by
  obtain ⟨x, hx, hxq⟩ := quantity_finite ha
  obtain ⟨y, hy, hyq⟩ := quantity_finite hb
  rw [hx, hy, ← hxq, ← hyq]
  rfl

theorem equal_quantity_iff {a b : Number} (ha : a.IsJson) (hb : b.IsJson) :
    a.quantity.equal b.quantity = true ↔ a.quanta = b.quanta := by
  simp only [Quantity.equal, compare?_quantity ha hb, beq_iff_eq, Option.some.injEq,
    Std.LawfulEqOrd.compare_eq_iff_eq]

theorem toInt64?_eq_some {a : Number} {i : Int} :
    a.toInt64? = some i ↔ a = .integer i ∧ -0x8000000000000000 ≤ i ∧ i < 0x8000000000000000 := by
  cases a with
  | integer n =>
    simp only [toInt64?, Option.ite_none_right_eq_some, Option.some.injEq, integer.injEq]
    constructor
    · rintro ⟨h, rfl⟩
      exact ⟨rfl, h⟩
    · rintro ⟨rfl, h⟩
      exact ⟨h, rfl⟩
  | double x => exact iff_of_false nofun nofun

theorem toNat64?_eq_some {a : Number} {i : Int} :
    a.toNat64? = some i ↔ a = .integer i ∧ 0 ≤ i ∧ i < 0x10000000000000000 := by
  cases a with
  | integer n =>
    simp only [toNat64?, Option.ite_none_right_eq_some, Option.some.injEq, integer.injEq]
    constructor
    · rintro ⟨h, rfl⟩
      exact ⟨rfl, h⟩
    · rintro ⟨rfl, h⟩
      exact ⟨h, rfl⟩
  | double x => exact iff_of_false nofun nofun

theorem order_of_not_int64 {a b : Number} (ha : a.IsJson) (hb : b.IsJson)
    (h : a.toInt64? = none ∨ b.toInt64? = none) : a.order b = compare a.quanta b.quanta := by
  unfold order
  split
  · rename_i hi hj
    rcases h with h | h
    · rw [h] at hi
      cases hi
    · rw [h] at hj
      cases hj
  · rw [compare?_quantity ha hb]
    rfl

theorem order_of_int64 {a b : Number} {i j : Int} (ha : a.toInt64? = some i)
    (hb : b.toInt64? = some j) : a.order b = compare i j := by
  simp only [order, ha, hb]

theorem order_gt_or_gt {m n : Int} (hm : (integer m).toInt64?.isSome = true)
    (hn : (integer n).toInt64?.isSome = true) (hne : m ≠ n) :
    (integer m).order (integer n) = .gt ∨ (integer n).order (integer m) = .gt := by
  obtain ⟨i, hi⟩ := Option.isSome_iff_exists.1 hm
  obtain ⟨j, hj⟩ := Option.isSome_iff_exists.1 hn
  obtain ⟨⟨⟩, -⟩ := toInt64?_eq_some.1 hi
  obtain ⟨⟨⟩, -⟩ := toInt64?_eq_some.1 hj
  rw [order_of_int64 hi hj, order_of_int64 hj hi, Int.compare_eq_gt, Int.compare_eq_gt]
  exact (Int.lt_or_gt_of_ne hne).symm

/-- A number that is no signed integer of 64 bits ties with all numbers of its quanta. -/
theorem order_ties {a b : Number} (ha : a.IsJson) (hb : b.IsJson) (h : a.toInt64? = none)
    (hq : a.quanta = b.quanta) : a.order b = .eq ∧ b.order a = .eq := by
  rw [order_of_not_int64 ha hb (.inl h), order_of_not_int64 hb ha (.inr h), hq]
  exact ⟨Std.ReflOrd.compare_self, Std.ReflOrd.compare_self⟩

theorem int64_cases (a b : Number) : (a.toInt64? = none ∨ b.toInt64? = none) ∨
    ∃ i j, a.toInt64? = some i ∧ b.toInt64? = some j := by
  cases ha : a.toInt64? with
  | none => exact .inl (.inl rfl)
  | some i =>
    cases hb : b.toInt64? with
    | none => exact .inl (.inr rfl)
    | some j => exact .inr ⟨i, j, rfl, rfl⟩

theorem order_swap {a b : Number} (ha : a.IsJson) (hb : b.IsJson) :
    b.order a = (a.order b).swap := by
  rcases int64_cases a b with h | ⟨i, j, hi, hj⟩
  · rw [order_of_not_int64 ha hb h, order_of_not_int64 hb ha h.symm, Int.compare_swap]
  · rw [order_of_int64 hi hj, order_of_int64 hj hi, Int.compare_swap]

theorem quanta_lt {m n : Int} (hm : m < 0) (hn : 0x8000000000000000 ≤ n) :
    (integer m).quanta < (integer n).quanta :=
  calc Binary64.nearestInt m ≤ Binary64.nearestInt 0 := Binary64.nearestInt_mono (by omega)
    _ < Binary64.nearestInt (0x8000000000000000) := by decide +kernel
    _ ≤ Binary64.nearestInt n := Binary64.nearestInt_mono hn

/-- Integers are equal as integers, any other two numbers if they are the same quantity. -/
theorem equal_iff {a b : Number} (ha : a.IsJson) (hb : b.IsJson) : a.equal b = true ↔
    match a, b with
    | integer m, integer n => m = n
    | _, _ => a.quanta = b.quanta := by
  cases a with
  | double x =>
    cases b <;> exact equal_quantity_iff ha hb
  | integer m =>
    cases b with
    | double y =>
      unfold equal
      split
      · rename_i h
        exact nomatch (toInt64?_eq_some.1 h).1
      · split
        · rename_i h
          exact nomatch (toNat64?_eq_some.1 h).1
        · exact equal_quantity_iff ha hb
    | integer n =>
      have ⟨hmmin, hmmax⟩ := ha
      have ⟨hnmin, hnmax⟩ := hb
      unfold equal
      split
      · rename_i i j hi hj
        obtain ⟨⟨⟩, -⟩ := toInt64?_eq_some.1 hi
        obtain ⟨⟨⟩, -⟩ := toInt64?_eq_some.1 hj
        exact beq_iff_eq
      · rename_i hsigned
        split
        · rename_i i j hi hj
          obtain ⟨⟨⟩, -⟩ := toNat64?_eq_some.1 hi
          obtain ⟨⟨⟩, -⟩ := toNat64?_eq_some.1 hj
          exact beq_iff_eq
        · rename_i hnat
          -- What is left is a negative integer and one above the signed range.
          have hlarge : ¬ (m < 0x8000000000000000 ∧ n < 0x8000000000000000) := fun h ↦ hsigned m n
            (toInt64?_eq_some.2 ⟨rfl, hmmin, h.1⟩) (toInt64?_eq_some.2 ⟨rfl, hnmin, h.2⟩)
          have hnegative : ¬ (0 ≤ m ∧ 0 ≤ n) := fun h ↦ hnat m n
            (toNat64?_eq_some.2 ⟨rfl, h.1, hmmax⟩) (toNat64?_eq_some.2 ⟨rfl, h.2, hnmax⟩)
          rw [equal_quantity_iff ha hb]
          refine ⟨fun hq ↦ ?_, fun h ↦ h ▸ rfl⟩
          by_cases hm : m < 0
          · exact absurd hq (Int.ne_of_lt (quanta_lt hm (by omega)))
          · exact absurd hq.symm (Int.ne_of_lt (quanta_lt (m := n) (by omega) (by omega)))

/-- A number that is not rounded: any double, and an integer of at most 53 bits. -/
def Exact : Number → Prop
  | integer n => n.natAbs ≤ 0x20000000000000
  | double _ => True

theorem Exact.isJson {n : Number} (h : n.Exact) : n.IsJson := by
  cases n with
  | integer n =>
    change n.natAbs ≤ 0x20000000000000 at h
    exact ⟨by omega, by omega⟩
  | double x => exact trivial

theorem Exact.eq_of_quanta_eq {m n : Int} (hm : (integer m).Exact) (hn : (integer n).Exact)
    (h : (integer m).quanta = (integer n).quanta) : m = n := Binary64.nearestInt_inj hm hn h

/-- Wherever a set of numbers has different integers of one quantity, it has no number of that
quantity but signed integers of 64 bits, which are compared with each other as integers. -/
def Coherent (S : Number → Prop) : Prop :=
  ∀ m n, S (integer m) → S (integer n) → m ≠ n →
    (integer m).quantity.equal (integer n).quantity = true →
    ∀ c, S c → c.quantity.equal (integer m).quantity = true → c.toInt64?.isSome = true

/-- Coherence as far as signed integers of 64 bits go: wherever a set of numbers has different ones
of one quantity, it has nothing else of that quantity. -/
def Sortable (S : Number → Prop) : Prop :=
  ∀ m n, S (integer m) → S (integer n) → (integer m).toInt64?.isSome = true →
    (integer n).toInt64?.isSome = true → m ≠ n →
    (integer m).quantity.equal (integer n).quantity = true →
    ∀ c, S c → c.quantity.equal (integer m).quantity = true → c.toInt64?.isSome = true

theorem Coherent.sortable {S : Number → Prop} (h : Coherent S) : Sortable S :=
  fun m n hm hn _ _ ↦ h m n hm hn

def SignedAt (S : Number → Prop) (q : Int) : Prop :=
  ∀ c, S c → c.quanta = q → c.toInt64?.isSome = true

open Classical in
/-- What tells apart the numbers of a set that have the same quanta. -/
noncomputable def tie (S : Number → Prop) (a : Number) : Int :=
  if SignedAt S a.quanta then a.toInt64?.getD 0 else 0

variable {S : Number → Prop}

theorem tie_eq_zero {a : Number} (h : ¬ SignedAt S a.quanta) : tie S a = 0 := if_neg h

theorem tie_eq {a : Number} {i : Int} (h : SignedAt S a.quanta) (ha : a.toInt64? = some i) :
    tie S a = i := by
  rw [tie, if_pos h, ha, Option.getD_some]

theorem tie_of_not_int64 {a b : Number} (ha : S a) (hb : S b) (hq : a.quanta = b.quanta)
    (h : a.toInt64? = none ∨ b.toInt64? = none) : tie S a = tie S b := by
  have hsigned : ¬ SignedAt S a.quanta := by
    intro hsigned
    rcases h with h | h
    · simpa [h] using hsigned a ha rfl
    · simpa [h] using hsigned b hb hq.symm
  rw [tie_eq_zero hsigned, tie_eq_zero (hq ▸ hsigned)]

theorem Coherent.unique (hc : Coherent S) (hS : ∀ n, S n → n.IsJson) {m n : Int}
    (hm : S (integer m)) (hn : S (integer n)) (hq : (integer m).quanta = (integer n).quanta)
    (h : ¬ SignedAt S (integer m).quanta) : m = n := by
  refine Decidable.byContradiction fun hne ↦ h fun c hcS hcq ↦ ?_
  exact hc m n hm hn hne ((equal_quantity_iff (hS _ hm) (hS _ hn)).2 hq) c hcS
    ((equal_quantity_iff (hS _ hcS) (hS _ hm)).2 hcq)

theorem compare_quanta_then {a b : Number} (h : a.quanta ≠ b.quanta) (o : Ordering) :
    (compare a.quanta b.quanta).then o = compare a.quanta b.quanta := by
  rcases Int.lt_or_gt_of_ne h with hlt | hgt
  · rw [Int.compare_eq_lt.2 hlt, Ordering.lt_then]
  · rw [Int.compare_eq_gt.2 hgt, Ordering.gt_then]

theorem Sortable.unique (h : Sortable S) (hS : ∀ n, S n → n.IsJson) {m n : Int}
    (hm : S (integer m)) (hn : S (integer n)) (hms : (integer m).toInt64?.isSome = true)
    (hns : (integer n).toInt64?.isSome = true) (hq : (integer m).quanta = (integer n).quanta)
    (hsigned : ¬ SignedAt S (integer m).quanta) : m = n := by
  refine Decidable.byContradiction fun hne ↦ hsigned fun c hcS hcq ↦ ?_
  exact h m n hm hn hms hns hne ((equal_quantity_iff (hS _ hm) (hS _ hn)).2 hq) c hcS
    ((equal_quantity_iff (hS _ hcS) (hS _ hm)).2 hcq)

/-- On a sortable set numbers are ordered by their quanta, then as integers. -/
theorem order_eq (hsort : Sortable S) (hS : ∀ n, S n → n.IsJson) {a b : Number} (ha : S a)
    (hb : S b) :
    a.order b = (compare a.quanta b.quanta).then (compare (tie S a) (tie S b)) := by
  -- Integers with different quanta are in the order of these, since rounding is monotone.
  by_cases hq : a.quanta = b.quanta
  · rw [hq, Std.ReflOrd.compare_self, Ordering.eq_then]
    rcases int64_cases a b with h | ⟨i, j, hi, hj⟩
    · rw [order_of_not_int64 (hS a ha) (hS b hb) h, tie_of_not_int64 ha hb hq h, hq,
        Std.ReflOrd.compare_self, Std.ReflOrd.compare_self]
    · rw [order_of_int64 hi hj]
      obtain ⟨rfl, -⟩ := toInt64?_eq_some.1 hi
      obtain ⟨rfl, -⟩ := toInt64?_eq_some.1 hj
      by_cases hsigned : SignedAt S (integer j).quanta
      · rw [tie_eq (hq ▸ hsigned) hi, tie_eq hsigned hj]
      · rw [hsort.unique hS hb ha (Option.isSome_of_eq_some hj) (Option.isSome_of_eq_some hi)
          hq.symm hsigned, Std.ReflOrd.compare_self, Std.ReflOrd.compare_self]
  · rw [compare_quanta_then hq]
    rcases int64_cases a b with h | ⟨i, j, hi, hj⟩
    · exact order_of_not_int64 (hS a ha) (hS b hb) h
    · rw [order_of_int64 hi hj]
      obtain ⟨rfl, -⟩ := toInt64?_eq_some.1 hi
      obtain ⟨rfl, -⟩ := toInt64?_eq_some.1 hj
      exact Binary64.compare_nearestInt hq

/-- On a coherent set the order tells apart whatever is not equal. -/
theorem equal_of_order_eq (hc : Coherent S) (hS : ∀ n, S n → n.IsJson) {a b : Number} (ha : S a)
    (hb : S b) (h : a.order b = .eq) : a.equal b = true := by
  have hq : a.quanta = b.quanta := by
    rw [order_eq hc.sortable hS ha hb, Ordering.then_eq_eq] at h
    exact Int.compare_eq_eq.1 h.1
  rw [equal_iff (hS a ha) (hS b hb)]
  cases a with
  | double x => cases b <;> exact hq
  | integer m =>
    cases b with
    | double y => exact hq
    | integer n =>
      by_cases hsigned : SignedAt S (integer m).quanta
      · obtain ⟨i, hi⟩ := Option.isSome_iff_exists.1 (hsigned _ ha rfl)
        obtain ⟨j, hj⟩ := Option.isSome_iff_exists.1 (hsigned _ hb hq.symm)
        rw [order_of_int64 hi hj, Int.compare_eq_eq] at h
        obtain ⟨⟨⟩, -⟩ := toInt64?_eq_some.1 hi
        obtain ⟨⟨⟩, -⟩ := toInt64?_eq_some.1 hj
        exact h
      · exact hc.unique hS ha hb hq hsigned

end Number

end AuditRules
