import AuditRules.Binary64.Shortest
import AuditRules.Text.Digits

namespace AuditRules.Quantity

def readExponent? : List Char → Option Int
  | [] => some 0
  | c :: cs =>
    if c = 'e' ∨ c = 'E' then
      let (negative, digits) := splitSign cs
      (readDigits? digits).map fun (n : Nat) ↦ if negative then -(n : Int) else n
    else none

/-- A literal without a sign: digits with an optional point among or beside them, then an optional
exponent. -/
def readLiteral? (negative : Bool) (cs : List Char) : Option Quantity :=
  let (whole, rest) := cs.span Char.isDigit
  let (fraction, tail) :=
    match rest with
    | '.' :: rest => rest.span Char.isDigit
    | rest => ([], rest)
  if whole.isEmpty && fraction.isEmpty then none else
  (readExponent? tail).map fun exponent ↦
    ofDecimal negative (digitsValue (whole ++ fraction)) (exponent - fraction.length)

def parse? (cs : List Char) : Option Quantity :=
  let (negative, magnitude) := splitSign cs
  let word := String.ofList (magnitude.map Char.toLower)
  if word = "nan" then some .undefined
  else if word = "inf" ∨ word = "infinity" then some (.infinite negative)
  else readLiteral? negative magnitude

def smallInt? : Quantity → Option Int
  | .finite x => x.toInt?.filter fun n ↦ n.natAbs < 1000000000000000
  | _ => none

/-- The text of a quantity: a whole number below 10 ^ 15 in magnitude as an integer, without a sign
for zero, and any other by its shortest digits, a tie going up. -/
def toText (a : Quantity) : String :=
  match smallInt? a, a with
  | some n, _ => toString n
  | none, .finite x =>
    String.ofList ((if x.negative then ['-'] else []) ++ (x.shortest .up).positional [])
  | none, .infinite negative => if negative then "-inf" else "inf"
  | none, .undefined => "NaN"

end AuditRules.Quantity
