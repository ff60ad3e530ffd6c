import AuditRules.Json.Numeral

namespace AuditRules.Json

inductive Piece where
  | char (c : Char)
  | unit (n : Nat)

inductive Document where
  | null
  | bool (b : Bool)
  | number (n : Numeral)
  | string (pieces : List Piece)
  | array (items : List Document)
  | object (fields : List (List Piece × Document))

/-- The characters of a quoted text. Code units of surrogates stand for characters in pairs only. -/
def decode? : List Piece → Option (List Char)
  | [] => some []
  | .char c :: rest => (decode? rest).map (c :: ·)
  | .unit high :: rest =>
    if 0xD800 ≤ high ∧ high < 0xDC00 then
      match rest with
      | .unit low :: rest =>
        if 0xDC00 ≤ low ∧ low < 0xE000 then
          let c := Char.ofNat (0x10000 + (high - 0xD800) * 0x400 + (low - 0xDC00))
          (decode? rest).map (c :: ·)
        else none
      | _ => none
    else if 0xDC00 ≤ high ∧ high < 0xE000 then none
    else (decode? rest).map (Char.ofNat high :: ·)

def text? (pieces : List Piece) : Option String := (decode? pieces).map String.ofList

def maxDepth : Nat := 127

mutual

def Document.value? (depth : Nat) : Document → Option Value
  | .null => some .null
  | .bool b => some (.bool b)
  | .number n => n.number?.map .number
  | .string pieces => (text? pieces).map .string
  | .array items => if depth = 0 then none else (values? (depth - 1) items).map .array
  | .object fields =>
    if depth = 0 then none
    else (entries? (depth - 1) fields).map fun entries ↦ .object (Fields.ofEntries entries)

def values? (depth : Nat) : List Document → Option (List Value)
  | [] => some []
  | d :: ds => do return (← d.value? depth) :: (← values? depth ds)

def entries? (depth : Nat) : List (List Piece × Document) → Option (List (String × Value))
  | [] => some []
  | (key, d) :: ds => do return (← text? key, ← d.value? depth) :: (← entries? depth ds)

end

/-- The value of a whole document. -/
def Document.toValue? (d : Document) : Option Value := d.value? maxDepth

end AuditRules.Json
