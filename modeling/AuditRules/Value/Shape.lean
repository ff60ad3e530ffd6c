import AuditRules.Value
import AuditRules.Text.Blank
import AuditRules.Text.Digits

namespace AuditRules

/-- The signed 64-bit integer that a whole number is. A magnitude of exactly 2 ^ 63 counts as
within the range and is brought to its end. -/
def Number.toWhole? (n : Number) : Option Int :=
  match n.toInt64?, n.quantity with
  | some i, _ => some i
  | none, .finite x =>
    (x.toInt?.filter fun i ↦ -0x8000000000000000 ≤ i && i ≤ 0x8000000000000000).map
      (min · 0x7fffffffffffffff)
  | none, _ => none

def Value.toWhole? : Value → Option Int
  | .number n => n.toWhole?
  | .string s => readInt64? (trimBlank s.toList)
  | _ => none

inductive Shape where
  | whole (n : Int)
  | mapping (fields : Fields)
  | other (v : Value)

/-- A value that holds an integer is whole; of the rest, mappings are told apart. -/
def Value.shape (v : Value) : Shape :=
  match v.toWhole?, v with
  | some n, _ => .whole n
  | none, .object fields => .mapping fields
  | none, v => .other v

end AuditRules
