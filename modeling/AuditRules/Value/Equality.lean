import AuditRules.Value
import AuditRules.Text.LetterCase

namespace AuditRules

/-- Two integers of one 64-bit type are equal as integers; any other two numbers are equal if they
are the same quantity. -/
def Number.equal (a b : Number) : Bool :=
  match a.toInt64?, b.toInt64? with
  | some i, some j => i == j
  | _, _ =>
    match a.toNat64?, b.toNat64? with
    | some i, some j => i == j
    | _, _ => a.quantity.equal b.quantity

mutual

def Value.equal : Value → Value → Bool
  | .null, .null => true
  | .bool a, .bool b => a == b
  | .number a, .number b => a.equal b
  | .string a, .string b => a == b
  | .array xs, .array ys => equalItems xs ys
  | .object xs, .object ys => xs.length == ys.length && equalFields xs ys
  | _, _ => false

def equalItems : List Value → List Value → Bool
  | [], [] => true
  | x :: xs, y :: ys => x.equal y && equalItems xs ys
  | _, _ => false

def equalFields : List (String × Value) → Fields → Bool
  | [], _ => true
  | (key, x) :: xs, ys => (ys.get? key).any x.equal && equalFields xs ys

end

def Value.foldCase (ignoreCase : Bool) : Value → Value
  | .string s => if ignoreCase then .string (LetterCase.lower s) else .string s
  | v => v

/-- Equality, where case may be ignored in a text that is the whole value. -/
def Value.equalFolded (ignoreCase : Bool) (a b : Value) : Bool :=
  (a.foldCase ignoreCase).equal (b.foldCase ignoreCase)

end AuditRules
