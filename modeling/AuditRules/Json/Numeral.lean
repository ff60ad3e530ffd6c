import AuditRules.Value
import AuditRules.Quantity.Text

namespace AuditRules

namespace Binary64

def ofQuantity? : Quantity → Option Binary64
  | .finite x => some x
  | _ => none

def powerOfTen? (exponent : Nat) : Option Binary64 := ofQuantity? (.ofDecimal false 1 exponent)

def mul? (x y : Binary64) : Option Binary64 :=
  ofQuantity? (.ofRatio x.negative (x.quanta * y.quanta) (one * one))

def div? (x y : Binary64) : Option Binary64 :=
  ofQuantity? (.ofRatio x.negative x.quanta y.quanta)

def lower? (x : Binary64) : Nat → Option Binary64
  | 0 => some x
  | n + 1 => if x.quanta = 0 then some x else do lower? (← x.div? (← powerOfTen? 308)) n

/-- Scaling by a power of ten, in as many rounded steps as keep each power below 10 ^ 309. -/
def scale? (x : Binary64) (exponent : Int) : Option Binary64 :=
  if 0 ≤ exponent then
    if x.quanta = 0 then some x
    else if exponent ≤ 308 then do x.mul? (← powerOfTen? exponent.toNat)
    else none
  else do
    let steps := (exponent.natAbs - 1) / 308
    (← x.lower? steps).div? (← powerOfTen? (exponent.natAbs - 308 * steps))

end Binary64

namespace Json

structure Numeral where
  negative : Bool
  whole : List Char
  fraction : Option (List Char)
  exponent : Option Int

namespace Numeral

def exponent? : List Char → Option (Option Int)
  | [] => some none
  | cs => (Quantity.readExponent? cs).map some

/-- No zero in front of other digits, a digit on both sides of a point, and a digit in an
exponent. -/
def parse? (cs : List Char) : Option Numeral :=
  let (negative, cs) :=
    match cs with
    | '-' :: cs => (true, cs)
    | cs => (false, cs)
  let (whole, rest) := cs.span Char.isDigit
  if whole.isEmpty || (whole.head? == some '0' && 1 < whole.length) then none else
  match rest with
  | '.' :: rest =>
    let (fraction, tail) := rest.span Char.isDigit
    if fraction.isEmpty then none
    else (exponent? tail).map fun e ↦ ⟨negative, whole, some fraction, e⟩
  | tail => (exponent? tail).map fun e ↦ ⟨negative, whole, none, e⟩

/-- Digits are appended to a number as long as it stays below 2 ^ 64; the digits left over are
returned. -/
def absorb (n : Nat) : List Char → Nat × List Char
  | [] => (n, [])
  | c :: cs =>
    if 10 * n + digitValue c < 0x10000000000000000 then absorb (10 * n + digitValue c) cs
    else (n, c :: cs)

def double? (n : Numeral) : Option Number :=
  let fraction := n.fraction.getD []
  let (whole, skipped) := absorb 0 n.whole
  let (significand, ignored) := absorb whole fraction
  let exponent := n.exponent.getD 0 + skipped.length - (fraction.length - ignored.length)
  match Quantity.ofInt significand with
  | .finite x => (x.scale? exponent).map fun y ↦ .double { y with negative := n.negative }
  | _ => none

/-- The number that a numeral writes: an integer that fits 64 bits is itself, and any other number
is rounded twice, its leading digits and then their scaling. Minus zero is a binary64 number. -/
def number? (n : Numeral) : Option Number :=
  let (magnitude, skipped) := absorb 0 n.whole
  if n.fraction.isSome || n.exponent.isSome || !skipped.isEmpty then n.double?
  else if !n.negative then some (.integer magnitude)
  else if 0 < magnitude ∧ magnitude ≤ 0x8000000000000000 then some (.integer (-magnitude))
  else n.double?

end Numeral

end Json

end AuditRules
