import AuditRules.Binary64

namespace AuditRules

/-- A number is an integer or a binary64 number; which of them is part of the value. -/
inductive Number where
  | integer (n : Int)
  | double (x : Binary64)
  deriving DecidableEq

namespace Number

def quantity : Number → Quantity
  | integer n => .ofInt n
  | double x => .finite x

def toInt64? : Number → Option Int
  | integer n => if -0x8000000000000000 ≤ n ∧ n < 0x8000000000000000 then some n else none
  | double _ => none

def toNat64? : Number → Option Int
  | integer n => if 0 ≤ n ∧ n < 0x10000000000000000 then some n else none
  | double _ => none

end Number

inductive Value where
  | null
  | bool (b : Bool)
  | number (n : Number)
  | string (s : String)
  | array (items : List Value)
  | object (fields : List (String × Value))

abbrev Fields := List (String × Value)

namespace Fields

def get? (fields : Fields) (key : String) : Option Value := fields.lookup key

def contains (fields : Fields) (key : String) : Bool := fields.any (·.1 == key)

def keys (fields : Fields) : List String := fields.map (·.1)

/-- Writing a key that is there keeps its place and replaces its value; a new key comes last. -/
def insert (fields : Fields) (key : String) (value : Value) : Fields :=
  if fields.contains key then
    fields.map fun entry ↦ if entry.1 == key then (key, value) else entry
  else fields ++ [(key, value)]

def insertAll (fields entries : Fields) : Fields :=
  entries.foldl (fun acc entry ↦ acc.insert entry.1 entry.2) fields

def ofEntries (entries : Fields) : Fields := insertAll [] entries

end Fields

namespace Value

def ofInt (n : Int) : Value := .number (.integer n)

def toArray? : Value → Option (List Value)
  | array items => some items
  | _ => none

def toObject? : Value → Option Fields
  | object fields => some fields
  | _ => none

def toString? : Value → Option String
  | string s => some s
  | _ => none

def isObject (v : Value) : Bool := v.toObject?.isSome

def get? (v : Value) (key : String) : Option Value := v.toObject?.bind (Fields.get? · key)

end Value

end AuditRules
