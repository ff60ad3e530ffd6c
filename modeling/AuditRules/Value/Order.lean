import AuditRules.Value
import AuditRules.StableSort

namespace AuditRules

/-- Signed 64-bit integers are ordered as integers, any other two numbers as quantities. -/
def Number.order (a b : Number) : Ordering :=
  match a.toInt64?, b.toInt64? with
  | some i, some j => compare i j
  | _, _ => (a.quantity.compare? b.quantity).getD .eq

namespace Fields

def sortKeys (fields : Fields) : Fields := insertionSort (fun x y ↦ decide (x.1 < y.1)) fields

end Fields

namespace Value

def rank : Value → Nat
  | null => 0
  | bool _ => 1
  | number _ => 2
  | string _ => 3
  | array _ => 4
  | object _ => 5

end Value

mutual

def Value.sortKeys : Value → Value
  | .array items => .array (sortItems items)
  | .object fields => .object (Fields.sortKeys (sortFields fields))
  | v => v

def sortItems : List Value → List Value
  | [] => []
  | x :: xs => x.sortKeys :: sortItems xs

def sortFields : List (String × Value) → Fields
  | [] => []
  | (key, x) :: xs => (key, x.sortKeys) :: sortFields xs

end

mutual

def Value.orderSorted : Value → Value → Ordering
  | .bool a, .bool b => compare a b
  | .number a, .number b => a.order b
  | .string a, .string b => compare a b
  | .array xs, .array ys => orderItems xs ys
  | .object xs, .object ys => orderFields xs ys
  | a, b => compare a.rank b.rank

/-- Lists are ordered by their first difference, a list before its continuations. -/
def orderItems : List Value → List Value → Ordering
  | [], [] => .eq
  | [], _ :: _ => .lt
  | _ :: _, [] => .gt
  | x :: xs, y :: ys => (x.orderSorted y).then (orderItems xs ys)

def orderFields : List (String × Value) → Fields → Ordering
  | [], [] => .eq
  | [], _ :: _ => .lt
  | _ :: _, [] => .gt
  | (k, x) :: xs, (l, y) :: ys =>
    ((compare k l).then (x.orderSorted y)).then (orderFields xs ys)

end

/-- The order of values: by kind, then within a kind, where mappings are ordered by their entries in
the order of the keys. -/
def Value.order (a b : Value) : Ordering := a.sortKeys.orderSorted b.sortKeys

end AuditRules
