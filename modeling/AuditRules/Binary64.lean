
namespace AuditRules

/-- The natural number nearest to `num / den`; of two nearest ones, the even one. -/
def roundDiv (num den : Nat) : Nat :=
  let q := num / den
  let twice := 2 * (num % den)
  if twice < den then q else if den < twice then q + 1 else q + q % 2

theorem roundDiv_le (num den : Nat) : roundDiv num den ≤ num / den + 1 := by
  unfold roundDiv
  dsimp only
  split
  · omega
  · split <;> omega

theorem le_roundDiv (num den : Nat) : num / den ≤ roundDiv num den := by
  unfold roundDiv
  dsimp only
  split
  · omega
  · split <;> omega

namespace Binary64

def one : Nat := Nat.pow 2 1074

def bound : Nat := Nat.pow 2 2098

/-- Magnitudes, in quanta, whose significand fits 53 bits. -/
def Representable (n : Nat) : Prop := ∃ m e, m < Nat.pow 2 53 ∧ n = m * Nat.pow 2 e

/-- The magnitude with a 53-bit significand nearest to `num / den`, ties to an even one. -/
def nearest (num den : Nat) : Nat :=
  let unit := Nat.pow 2 ((num / den).log2 + 1 - 53)
  roundDiv num (den * unit) * unit

theorem nearest_representable (num den : Nat) : Representable (nearest num den) := by
  unfold nearest
  dsimp only
  generalize hs : (num / den).log2 + 1 - 53 = s
  have hq : num / (den * 2 ^ s) < 2 ^ 53 := by
    rw [← Nat.div_div_eq_div_mul, Nat.div_lt_iff_lt_mul (Nat.two_pow_pos s), ← Nat.pow_add]
    refine Nat.lt_of_lt_of_le (Nat.lt_log2_self (n := num / den)) ?_
    exact Nat.pow_le_pow_right (by omega) (by omega)
  have hr := roundDiv_le num (den * 2 ^ s)
  by_cases he : roundDiv num (den * 2 ^ s) < 2 ^ 53
  · exact ⟨_, s, he, rfl⟩
  · have : roundDiv num (den * 2 ^ s) = 2 ^ 53 := by omega
    refine ⟨1, 53 + s, by decide, ?_⟩
    change roundDiv num (den * 2 ^ s) * 2 ^ s = 1 * 2 ^ (53 + s)
    rw [this, Nat.pow_add, Nat.one_mul]

end Binary64

/-- A finite binary64 number, held exactly: a magnitude is a whole number of quanta, a quantum being
2 ^ (-1074). The sign is kept for zero too. -/
structure Binary64 where
  negative : Bool
  quanta : Nat
  representable : Binary64.Representable quanta
  lt_bound : quanta < Binary64.bound
  deriving DecidableEq

namespace Binary64

def signed (x : Binary64) : Int := if x.negative then -(x.quanta : Int) else x.quanta

/-- The integer that a number is, if it has no fraction. -/
def toInt? (x : Binary64) : Option Int :=
  if x.quanta % one = 0 then
    let magnitude : Int := (x.quanta / one : Nat)
    some (if x.negative then -magnitude else magnitude)
  else none

end Binary64

/-- What a number rule compares: a finite number, an infinity, or no number at all, which is
neither below, above nor equal to anything. -/
inductive Quantity where
  | finite (x : Binary64)
  | infinite (negative : Bool)
  | undefined
  deriving DecidableEq

namespace Quantity

def ofMagnitude (negative : Bool) (n : Nat) (h : Binary64.Representable n) : Quantity :=
  if hb : n < Binary64.bound then .finite ⟨negative, n, h, hb⟩ else .infinite negative

def ofRatio (negative : Bool) (num den : Nat) : Quantity :=
  ofMagnitude negative _ (Binary64.nearest_representable (num * Binary64.one) den)

def ofInt (n : Int) : Quantity := ofRatio (n < 0) n.natAbs 1

/-- The number nearest to `digits * 10 ^ exponent`. Beyond the range of all finite numbers the
power is not computed: the answer there is zero or an infinity. -/
def ofDecimal (negative : Bool) (digits : Nat) (exponent : Int) : Quantity :=
  let places := (Nat.toDigits 10 digits).length + exponent
  if digits = 0 ∨ places < -330 then ofRatio negative 0 1
  else if 330 < places then .infinite negative
  else if 0 ≤ exponent then ofRatio negative (digits * Nat.pow 10 exponent.toNat) 1
  else ofRatio negative digits (Nat.pow 10 exponent.natAbs)

def compare? : Quantity → Quantity → Option Ordering
  | .undefined, _ | _, .undefined => none
  | .finite x, .finite y => some (compare x.signed y.signed)
  | .infinite a, .infinite b => some (if a == b then .eq else if a then .lt else .gt)
  | .infinite a, .finite _ => some (if a then .lt else .gt)
  | .finite _, .infinite b => some (if b then .gt else .lt)

/-- Equality of value: the two zeros are equal, and what is undefined equals nothing. -/
def equal (a b : Quantity) : Bool := compare? a b == some .eq

end Quantity

end AuditRules
