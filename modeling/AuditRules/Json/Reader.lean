import AuditRules.Json.Document

namespace AuditRules.Json

inductive Token where
  | mark (c : Char)
  | bare (cs : List Char)
  | quoted (pieces : List Piece)

/-- Where the scanner stands; what it has read of a token is held in reverse. -/
inductive Scan where
  | between
  | bare (cs : List Char)
  | quoted (pieces : List Piece)
  | escape (pieces : List Piece)
  | unit (pieces : List Piece) (digits : List Char)

namespace Scan

def isSpace (c : Char) : Bool := c == ' ' || c == '\t' || c == '\n' || c == '\r'

def isMark (c : Char) : Bool :=
  c == '[' || c == ']' || c == '\x7b' || c == '\x7d' || c == ',' || c == ':'

def isBare (c : Char) : Bool := c.isAlphanum || c == '+' || c == '-' || c == '.'

def escaped? (c : Char) : Option Char :=
  match c with
  | '"' => some '"'
  | '\\' => some '\\'
  | '/' => some '/'
  | 'b' => some '\x08'
  | 'f' => some '\x0c'
  | 'n' => some '\n'
  | 'r' => some '\r'
  | 't' => some '\t'
  | _ => none

def start? (tokens : List Token) (c : Char) : Option (List Token × Scan) :=
  if isSpace c then some (tokens, .between)
  else if isMark c then some (.mark c :: tokens, .between)
  else if c == '"' then some (tokens, .quoted [])
  else if isBare c then some (tokens, .bare [c])
  else none

def step? : List Token × Scan → Char → Option (List Token × Scan)
  | (tokens, .between), c => start? tokens c
  | (tokens, .bare cs), c =>
    if isBare c then some (tokens, .bare (c :: cs)) else start? (.bare cs.reverse :: tokens) c
  | (tokens, .quoted pieces), c =>
    if c == '"' then some (.quoted pieces.reverse :: tokens, .between)
    else if c == '\\' then some (tokens, .escape pieces)
    else if c.toNat < 32 then none
    else some (tokens, .quoted (.char c :: pieces))
  | (tokens, .escape pieces), c =>
    if c == 'u' then some (tokens, .unit pieces [])
    else (escaped? c).map fun e ↦ (tokens, .quoted (.char e :: pieces))
  | (tokens, .unit pieces digits), c =>
    if digits.length < 3 then (hexValue? c).map fun _ ↦ (tokens, .unit pieces (c :: digits))
    else (readBase? 16 (c :: digits).reverse).map fun n ↦ (tokens, .quoted (.unit n :: pieces))

end Scan

def tokens? (cs : List Char) : Option (List Token) := do
  match ← cs.foldlM Scan.step? ([], .between) with
  | (tokens, .between) => some tokens.reverse
  | (tokens, .bare cs) => some (.bare cs.reverse :: tokens).reverse
  | _ => none

inductive Frame where
  | array (items : List Document)
  | object (fields : List (List Piece × Document))
  | member (fields : List (List Piece × Document)) (key : List Piece)

inductive Need where
  | value
  | valueOrEnd
  | key
  | keyOrEnd
  | colon
  | separator
  | nothing (d : Document)

namespace Need

/-- A complete document is given to the innermost open list or mapping. -/
def deliver? (d : Document) : List Frame → Option (List Frame × Need)
  | [] => some ([], .nothing d)
  | .array items :: rest => some (.array (d :: items) :: rest, .separator)
  | .member fields name :: rest => some (.object ((name, d) :: fields) :: rest, .separator)
  | .object _ :: _ => none

def close? (c : Char) : List Frame → Option (List Frame × Need)
  | .array items :: rest => if c == ']' then deliver? (.array items.reverse) rest else none
  | .object fields :: rest => if c == '\x7d' then deliver? (.object fields.reverse) rest else none
  | _ => none

def bare? (cs : List Char) : Option Document :=
  match String.ofList cs with
  | "null" => some .null
  | "true" => some (.bool true)
  | "false" => some (.bool false)
  | _ => (Numeral.parse? cs).map .number

def value? (frames : List Frame) : Token → Option (List Frame × Need)
  | .mark '[' => some (.array [] :: frames, .valueOrEnd)
  | .mark '\x7b' => some (.object [] :: frames, .keyOrEnd)
  | .mark _ => none
  | .bare cs => (bare? cs).bind (deliver? · frames)
  | .quoted pieces => deliver? (.string pieces) frames

def key? : List Frame → Token → Option (List Frame × Need)
  | .object fields :: rest, .quoted name => some (.member fields name :: rest, .colon)
  | _, _ => none

def step? : List Frame × Need → Token → Option (List Frame × Need)
  | (frames, .value), t => value? frames t
  | (frames, .valueOrEnd), .mark ']' => close? ']' frames
  | (frames, .valueOrEnd), t => value? frames t
  | (frames, .key), t => key? frames t
  | (frames, .keyOrEnd), .mark '\x7d' => close? '\x7d' frames
  | (frames, .keyOrEnd), t => key? frames t
  | (frames, .colon), .mark ':' => some (frames, .value)
  | (.array items :: rest, .separator), .mark ',' => some (.array items :: rest, .value)
  | (.object fields :: rest, .separator), .mark ',' => some (.object fields :: rest, .key)
  | (frames, .separator), .mark c => close? c frames
  | _, _ => none

end Need

def Document.parse? (s : String) : Option Document := do
  match ← (← tokens? s.toList).foldlM Need.step? ([], .value) with
  | (_, .nothing d) => some d
  | _ => none

end AuditRules.Json

namespace AuditRules

def Value.parse? (s : String) : Option Value := (Json.Document.parse? s).bind (·.toValue?)

end AuditRules
