
namespace AuditRules

def digitValue (c : Char) : Nat := c.toNat - 48

def digitsValue (cs : List Char) : Nat := cs.foldl (fun n c ↦ 10 * n + digitValue c) 0

def readDigits? (cs : List Char) : Option Nat :=
  if !cs.isEmpty && cs.all Char.isDigit then some (digitsValue cs) else none

def splitSign : List Char → Bool × List Char
  | '-' :: rest => (true, rest)
  | '+' :: rest => (false, rest)
  | cs => (false, cs)

/-- An integer of 64 bits in decimal digits, with an optional sign of either kind. -/
def readInt64? (cs : List Char) : Option Int :=
  let (negative, digits) := splitSign cs
  (readDigits? digits).bind fun n ↦
    let value : Int := if negative then -n else n
    if -0x8000000000000000 ≤ value ∧ value < 0x8000000000000000 then some value else none

/-- A natural number of 64 bits in decimal digits, with an optional plus sign. -/
def readNat64? (cs : List Char) : Option Nat :=
  let digits := if cs.head? = some '+' then cs.drop 1 else cs
  (readDigits? digits).bind fun n ↦ if n < 0x10000000000000000 then some n else none

def hexValue? (c : Char) : Option Nat :=
  if c.isDigit then some (digitValue c)
  else if 'a' ≤ c ∧ c ≤ 'f' then some (c.toNat - 87)
  else if 'A' ≤ c ∧ c ≤ 'F' then some (c.toNat - 55)
  else none

def readBase? (base : Nat) (cs : List Char) : Option Nat := do
  let values ← cs.mapM fun c ↦ (hexValue? c).filter (· < base)
  if values.isEmpty then none else some (values.foldl (base * · + ·) 0)

end AuditRules
