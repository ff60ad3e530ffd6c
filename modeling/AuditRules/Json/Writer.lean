import AuditRules.Value
import AuditRules.Binary64.Shortest

namespace AuditRules

namespace Json

def escapeChar (c : Char) : List Char :=
  match c with
  | '"' => ['\\', '"']
  | '\\' => ['\\', '\\']
  | '\n' => ['\\', 'n']
  | '\r' => ['\\', 'r']
  | '\t' => ['\\', 't']
  | c =>
    if c.toNat = 8 then ['\\', 'b']
    else if c.toNat = 12 then ['\\', 'f']
    else if c.toNat < 32 then
      ['\\', 'u', '0', '0', Nat.digitChar (c.toNat / 16), Nat.digitChar (c.toNat % 16)]
    else [c]

def quote (s : String) : String := String.ofList ('"' :: s.toList.flatMap escapeChar ++ ['"'])

/-- The text of a binary64 number: positional with at least one place from 10 ^ (-5) up to, but not
at, 10 ^ 16, and with an exponent outside. -/
def doubleText (x : Binary64) : String :=
  let d := x.shortest .toEven
  let digits := if -5 ≤ d.exponent ∧ d.exponent ≤ 15 then d.positional ['.', '0'] else d.scientific
  String.ofList ((if x.negative then ['-'] else []) ++ digits)

end Json

def Number.text : Number → String
  | integer n => toString n
  | double x => Json.doubleText x

mutual

def Value.compact : Value → String
  | .null => "null"
  | .bool b => if b then "true" else "false"
  | .number n => n.text
  | .string s => Json.quote s
  | .array items => "[" ++ compactItems items ++ "]"
  | .object fields => "\x7b" ++ compactFields fields ++ "\x7d"

def compactItems : List Value → String
  | [] => ""
  | [x] => x.compact
  | x :: xs => x.compact ++ "," ++ compactItems xs

def compactFields : List (String × Value) → String
  | [] => ""
  | [(key, x)] => Json.quote key ++ ":" ++ x.compact
  | (key, x) :: xs => Json.quote key ++ ":" ++ x.compact ++ "," ++ compactFields xs

end

namespace Json

def newline (depth : Nat) : String := String.ofList ('\n' :: List.replicate (2 * depth) ' ')

end Json

mutual

/-- The value with each item on a line of its own, indented by two spaces for each level. -/
def Value.indented (depth : Nat) : Value → String
  | .array [] => "[]"
  | .array items => "[" ++ indentedItems (depth + 1) items ++ Json.newline depth ++ "]"
  | .object [] => "\x7b\x7d"
  | .object fields => "\x7b" ++ indentedFields (depth + 1) fields ++ Json.newline depth ++ "\x7d"
  | v => v.compact

def indentedItems (depth : Nat) : List Value → String
  | [] => ""
  | [x] => Json.newline depth ++ x.indented depth
  | x :: xs => Json.newline depth ++ x.indented depth ++ "," ++ indentedItems depth xs

def indentedFields (depth : Nat) : List (String × Value) → String
  | [] => ""
  | [(key, x)] => Json.newline depth ++ Json.quote key ++ ": " ++ x.indented depth
  | (key, x) :: xs =>
    Json.newline depth ++ Json.quote key ++ ": " ++ x.indented depth ++ "," ++
      indentedFields depth xs

end

end AuditRules
