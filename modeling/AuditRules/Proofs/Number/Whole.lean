import AuditRules.Proofs.Number
import AuditRules.Value.Shape

namespace AuditRules

namespace Binary64

theorem nearestInt_limit :
    nearestInt 0x8000000000000000 = (0x8000000000000000 : Int) * one := by decide +kernel

theorem nearestInt_limit_last :
    nearestInt 0x8000000000000400 = (0x8000000000000000 : Int) * one := by decide +kernel

theorem lt_nearestInt_after_limit :
    (0x8000000000000000 : Int) * one < nearestInt 0x8000000000000401 := by decide +kernel

/-- The integers from 2 ^ 63 on that are rounded to it are the first 1025. -/
theorem nearestInt_eq_limit_iff {m : Int} (h : 0x8000000000000000 ≤ m) :
    nearestInt m = (0x8000000000000000 : Int) * one ↔ m ≤ 0x8000000000000400 := by
  constructor
  · intro hm
    refine Int.not_lt.1 fun hlt ↦ Int.lt_irrefl (nearestInt m) ?_
    calc nearestInt m = (0x8000000000000000 : Int) * one := hm
      _ < nearestInt 0x8000000000000401 := lt_nearestInt_after_limit
      _ ≤ nearestInt m := nearestInt_mono hlt
  · intro hm
    exact Int.le_antisymm (nearestInt_limit_last ▸ nearestInt_mono hm)
      (nearestInt_limit ▸ nearestInt_mono h)

end Binary64

namespace Number

open Binary64 (one)

def exactQuanta : Number → Int
  | integer n => n * one
  | double x => x.signed

def IsInteger (a : Number) (n : Int) : Prop := a.exactQuanta = n * one

def Fractional (a : Number) : Prop := ∀ n, ¬ a.IsInteger n

def OutsideInt64 (a : Number) : Prop :=
  a.exactQuanta < -0x8000000000000000 * one ∨ 0x7fffffffffffffff * one < a.exactQuanta

/-- The number is 2 ^ 63, or an integer above it that is rounded to it. -/
def AtLimit : Number → Prop
  | integer n => 0x8000000000000000 ≤ n ∧ n ≤ 0x8000000000000400
  | double x => x.signed = 0x8000000000000000 * one

/-- The number is taken for no other integer than itself, and for none if it is a fraction or
outside the range. -/
def CoercesExactly (a : Number) : Prop :=
  (∀ n, (Value.number a).toWhole? = some n → a.IsInteger n) ∧
    (a.Fractional ∨ a.OutsideInt64 → (Value.number a).toWhole? = none)

@[simp]
theorem isInteger_integer {m n : Int} : (integer m).IsInteger n ↔ m = n :=
  ⟨Binary64.mul_one_inj, congrArg (· * (one : Int))⟩

theorem toWhole?_of_not_int64 {a : Number} (ha : a.IsJson) (h : a.toInt64? = none) {n : Int} :
    a.toWhole? = some n ↔ ∃ i : Int, a.quanta = i * one ∧
      (-0x8000000000000000 ≤ i ∧ i ≤ 0x8000000000000000) ∧ min i 0x7fffffffffffffff = n := by
  obtain ⟨x, hx, hsigned⟩ := quantity_finite ha
  simp only [toWhole?, h, hx, Option.map_eq_some_iff, Option.filter_eq_some_iff, Bool.and_eq_true,
    decide_eq_true_eq, Binary64.toInt?_eq_some_iff, hsigned, and_assoc]

theorem toWhole?_double {x : Binary64} {n : Int} : (double x).toWhole? = some n ↔
    ∃ i : Int, x.signed = i * one ∧
      (-0x8000000000000000 ≤ i ∧ i ≤ 0x8000000000000000) ∧ min i 0x7fffffffffffffff = n :=
  toWhole?_of_not_int64 (a := double x) trivial rfl

theorem toWhole?_integer {m n : Int} (hm : (integer m).IsJson) :
    (integer m).toWhole? = some n ↔ m ≤ 0x8000000000000400 ∧ min m 0x7fffffffffffffff = n := by
  have ⟨hmin, _⟩ := hm
  by_cases hmax : m < 0x8000000000000000
  · have hint : (integer m).toInt64? = some m := toInt64?_eq_some.2 ⟨rfl, hmin, hmax⟩
    simp only [toWhole?, hint, Option.some.injEq]
    omega
  · have hnot : (integer m).toInt64? = none := if_neg (not_and_of_not_right _ hmax)
    rw [toWhole?_of_not_int64 hm hnot]
    constructor
    · rintro ⟨i, hi, ⟨-, hle⟩, rfl⟩
      -- The integer is at least 2 ^ 63, and so is what it is rounded to.
      have hge : 0x8000000000000000 ≤ i := by
        rw [← Binary64.mul_one_le_iff, ← hi, ← Binary64.nearestInt_limit]
        exact Binary64.nearestInt_mono (Int.not_lt.1 hmax)
      obtain rfl : i = 0x8000000000000000 := Int.le_antisymm hle hge
      have hlast := (Binary64.nearestInt_eq_limit_iff (Int.not_lt.1 hmax)).1 hi
      exact ⟨hlast, by omega⟩
    · rintro ⟨hlast, rfl⟩
      exact ⟨0x8000000000000000, (Binary64.nearestInt_eq_limit_iff (Int.not_lt.1 hmax)).2 hlast,
        by decide, by omega⟩

/-- The whole answer: an integer of the range is taken for itself, and a number at the limit for the
largest signed integer. -/
theorem toWhole?_eq_some_iff {a : Number} (ha : a.IsJson) {n : Int} : a.toWhole? = some n ↔
    (a.IsInteger n ∧ -0x8000000000000000 ≤ n ∧ n < 0x8000000000000000) ∨
      (a.AtLimit ∧ n = 0x7fffffffffffffff) := by
  cases a with
  | integer m =>
    have ⟨hmin, _⟩ := ha
    simp only [toWhole?_integer ha, isInteger_integer, AtLimit]
    omega
  | double x =>
    rw [toWhole?_double]
    constructor
    · rintro ⟨i, hi, ⟨hmin, hmax⟩, rfl⟩
      rcases Int.lt_or_eq_of_le hmax with hlt | rfl
      · have hsame : min i 0x7fffffffffffffff = i := by omega
        rw [hsame]
        exact .inl ⟨hi, hmin, hlt⟩
      · exact .inr ⟨hi, by decide⟩
    · rintro (⟨hn, hmin, hlt⟩ | ⟨hx, rfl⟩)
      · exact ⟨n, hn, ⟨hmin, by omega⟩, by omega⟩
      · exact ⟨0x8000000000000000, hx, by decide, by decide⟩

theorem AtLimit.outside {a : Number} (h : a.AtLimit) : a.OutsideInt64 := by
  right
  cases a with
  | integer n =>
    rw [exactQuanta, Int.mul_lt_mul_right (Int.natCast_pos.2 Binary64.one_pos)]
    exact Int.lt_of_lt_of_le (by decide) h.1
  | double x =>
    rw [exactQuanta, show x.signed = _ from h,
      Int.mul_lt_mul_right (Int.natCast_pos.2 Binary64.one_pos)]
    decide

theorem toWhole?_of_atLimit {a : Number} (ha : a.IsJson) (h : a.AtLimit) :
    a.toWhole? = some 0x7fffffffffffffff :=
  (toWhole?_eq_some_iff ha).2 (.inr ⟨h, rfl⟩)

theorem IsInteger.inside {a : Number} {n : Int} (h : a.IsInteger n)
    (hrange : -0x8000000000000000 ≤ n ∧ n < 0x8000000000000000) :
    ¬ (a.Fractional ∨ a.OutsideInt64) := by
  rintro (hfraction | hbelow | habove)
  · exact hfraction n h
  · rw [h, Int.mul_lt_mul_right (Int.natCast_pos.2 Binary64.one_pos)] at hbelow
    omega
  · rw [h, Int.mul_lt_mul_right (Int.natCast_pos.2 Binary64.one_pos)] at habove
    omega

/-- A number is taken for what it is unless it is at the limit, where it is taken for the largest
signed integer, although it is outside the range. -/
theorem coercesExactly_iff {a : Number} (ha : a.IsJson) : (a.CoercesExactly ↔ ¬ a.AtLimit) ∧
    (a.AtLimit → (Value.number a).toWhole? = some 0x7fffffffffffffff) := by
  refine ⟨⟨fun h hlimit ↦ ?_, fun hlimit ↦ ⟨fun n hn ↦ ?_, fun hout ↦ ?_⟩⟩,
    toWhole?_of_atLimit ha⟩
  · have hnone := h.2 (.inr hlimit.outside)
    rw [Value.toWhole?, toWhole?_of_atLimit ha hlimit] at hnone
    cases hnone
  · rcases (toWhole?_eq_some_iff ha).1 hn with ⟨hinteger, -⟩ | ⟨hat, -⟩
    · exact hinteger
    · exact absurd hat hlimit
  · refine Option.eq_none_iff_forall_ne_some.2 fun n hn ↦ ?_
    rcases (toWhole?_eq_some_iff ha).1 hn with ⟨hinteger, hrange⟩ | ⟨hat, -⟩
    · exact hinteger.inside hrange hout
    · exact hlimit hat

theorem coercesExactly_after_limit : (integer 0x8000000000000401).IsJson ∧
    (integer 0x8000000000000401).CoercesExactly := by
  have hjson : (integer 0x8000000000000401).IsJson := ⟨by decide, by decide⟩
  refine ⟨hjson, (coercesExactly_iff hjson).1.2 fun hlimit ↦ ?_⟩
  exact absurd hlimit.2 (by decide)

theorem not_coercesExactly_limit : (integer 0x8000000000000000).IsJson ∧
    (integer 0x8000000000000000).OutsideInt64 ∧
    (Value.number (integer 0x8000000000000000)).toWhole? = some 0x7fffffffffffffff ∧
    ¬ (integer 0x8000000000000000).CoercesExactly := by
  have hjson : (integer 0x8000000000000000).IsJson := ⟨by decide, by decide⟩
  have hlimit : (integer 0x8000000000000000).AtLimit := ⟨by decide, by decide⟩
  have hwhole := toWhole?_of_atLimit hjson hlimit
  refine ⟨hjson, hlimit.outside, hwhole, fun h ↦ ?_⟩
  cases hwhole.symm.trans (h.2 (.inr hlimit.outside))

end Number

end AuditRules
