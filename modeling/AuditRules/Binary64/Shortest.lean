import AuditRules.Binary64

namespace AuditRules

structure Decimal where
  digits : List Char
  exponent : Int

inductive Tie where
  | toEven
  | up

namespace Binary64

def gapAbove (n : Nat) : Nat := Nat.pow 2 (n.log2 - 52)

def gapBelow (n : Nat) : Nat :=
  if n = Nat.pow 2 n.log2 then Nat.pow 2 (n.log2 - 53) else gapAbove n

/-- The decimals `num / den` that are read as the magnitude `n`: those between the midpoints to its
neighbours, the midpoints included when the significand is even. -/
def readsAs (n num den : Nat) : Bool :=
  let value := 2 * one * num
  let low := (2 * n - gapBelow n) * den
  let high := (2 * n + gapAbove n) * den
  if n / gapAbove n % 2 = 0 then low ≤ value && value ≤ high else low < value && value < high

def leadingExponent (n : Nat) : Int :=
  ((Nat.toDigits 10 (n * Nat.pow 10 324 / one)).length : Int) - 325

def gridPoint (d : Nat) (grid : Int) : Nat × Nat :=
  if 0 ≤ grid then (d * Nat.pow 10 grid.toNat, 1) else (d, Nat.pow 10 grid.natAbs)

/-- The multiple of `10 ^ grid` that is read as `n`, if there is one; the nearer one if there are
two. -/
def onGrid (tie : Tie) (n : Nat) (grid : Int) : Option Nat :=
  let (num, den) := gridPoint 1 grid
  let below := n * den / (one * num)
  let hits (d : Nat) : Bool := let (p, q) := gridPoint d grid; readsAs n p q
  match hits below, hits (below + 1) with
  | true, false => some below
  | false, true => some (below + 1)
  | false, false => none
  | true, true =>
    let (p, q) := gridPoint (2 * below + 1) grid
    match compare (2 * n * q) (one * p) with
    | .lt => some below
    | .gt => some (below + 1)
    | .eq =>
      match tie with
      | .toEven => some (below + below % 2)
      | .up => some (below + 1)

/-- The shortest decimal that is read as the magnitude of `x`. -/
def shortest (tie : Tie) (x : Binary64) : Decimal :=
  if x.quanta = 0 then ⟨['0'], 0⟩ else
  let lead := leadingExponent x.quanta
  let found := (List.range 17).findSome? fun (more : Nat) ↦
    (onGrid tie x.quanta (lead - more)).map fun d ↦
      let digits := Nat.toDigits 10 d
      { digits := (digits.reverse.dropWhile (· == '0')).reverse
        exponent := lead - more + digits.length - 1 : Decimal }
  found.getD ⟨['0'], 0⟩

end Binary64

namespace Decimal

def positional (whole : List Char) (d : Decimal) : List Char :=
  if d.exponent < 0 then
    '0' :: '.' :: List.replicate (d.exponent.natAbs - 1) '0' ++ d.digits
  else
    let before := d.exponent.toNat + 1
    if d.digits.length ≤ before then
      d.digits ++ List.replicate (before - d.digits.length) '0' ++ whole
    else d.digits.take before ++ '.' :: d.digits.drop before

def scientific (d : Decimal) : List Char :=
  let fraction := if d.digits.length ≤ 1 then [] else '.' :: d.digits.drop 1
  let sign := if d.exponent < 0 then '-' else '+'
  d.digits.take 1 ++ fraction ++ 'e' :: sign :: Nat.toDigits 10 d.exponent.natAbs

end Decimal

end AuditRules
