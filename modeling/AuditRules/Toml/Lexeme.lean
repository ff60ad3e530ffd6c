import AuditRules.Quantity.Text

namespace AuditRules.Toml

abbrev Read := StateT (List Char) Option

namespace Read

def peek : Read (Option Char) := return (← get).head?

def any : Read Char
  | [] => none
  | c :: cs => some (c, cs)

def span (kind : Char → Bool) : Read (List Char) := fun cs ↦
  some (cs.takeWhile kind, cs.dropWhile kind)

def one (kind : Char → Bool) : Read Char := do
  let c ← any
  if kind c then return c else failure

def exactly (s : String) : Read Unit := fun cs ↦
  if s.toList.isPrefixOf cs then some ((), cs.drop s.length) else none

def taken (s : String) : Read Bool := do return (← optional (exactly s)).isSome

end Read

open Read

def unifyLineEnds : List Char → List Char
  | '\r' :: '\n' :: cs => '\n' :: unifyLineEnds cs
  | c :: cs => c :: unifyLineEnds cs
  | [] => []

def isPlain (c : Char) : Bool := c == '\t' || (32 ≤ c.toNat && c.toNat != 127)

def space : Read Unit := do let _ ← span fun c ↦ c == ' ' || c == '\t'

def comment : Read Unit := do
  exactly "#"
  let _ ← span isPlain

def lineEnd : Read Unit := do
  space
  let _ ← optional comment
  match ← peek with
  | none => return
  | some _ => exactly "\n"

def lines : Nat → Read Unit
  | 0 => return
  | fuel + 1 => do
    space
    if (← peek) == some '#' then comment
    if ← taken "\n" then lines fuel

def escape : Read Char := do
  let code (digits : Nat) : Read Char := do
    let n ← readBase? 16 (← (List.range digits).mapM fun _ ↦ any)
    if n.isValidChar then return Char.ofNat n else failure
  match ← any with
  | 'b' => return '\x08'
  | 't' => return '\t'
  | 'n' => return '\n'
  | 'f' => return '\x0c'
  | 'r' => return '\r'
  | '"' => return '"'
  | '\\' => return '\\'
  | 'u' => code 4
  | 'U' => code 8
  | _ => failure

def quoted (mark : Char) : Nat → Read (List Char)
  | 0 => failure
  | fuel + 1 => do
    let c ← any
    if c == mark then return []
    else if c == '\\' && mark == '"' then return (← escape) :: (← quoted mark fuel)
    else if isPlain c then return c :: (← quoted mark fuel)
    else failure

def lineJoin : Read Unit := do
  space
  exactly "\n"
  let _ ← span fun c ↦ c == ' ' || c == '\t' || c == '\n'

/-- The rest of a text on several lines, up to the three quotation marks that close it; up to two
more stand before them. -/
def longQuoted (mark : Char) : Nat → Read (List Char)
  | 0 => failure
  | fuel + 1 => do
    let c ← any
    if c == mark then
      let more ← span (· == mark)
      if more.length < 2 then return c :: more ++ (← longQuoted mark fuel)
      else if more.length < 5 then return more.drop 2
      else failure
    else if c == '\\' && mark == '"' then
      if (← optional lineJoin).isSome then longQuoted mark fuel
      else return (← escape) :: (← longQuoted mark fuel)
    else if isPlain c || c == '\n' then return c :: (← longQuoted mark fuel)
    else failure

/-- A quoted text, on one line or on several. -/
def text : Read (List Char) := do
  let mark ← one fun c ↦ c == '"' || c == '\''
  let fuel := (← get).length
  if ← taken (String.ofList [mark, mark]) then
    let _ ← taken "\n"
    longQuoted mark fuel
  else quoted mark fuel

def namePart : Read String := do
  match ← optional (one fun c ↦ c == '"' || c == '\'') with
  | some mark => return String.ofList (← quoted mark (← get).length)
  | none =>
    let name ← span fun c ↦ c.isAlphanum || c == '_' || c == '-'
    if name.isEmpty then failure else return String.ofList name

def nameParts : Nat → Read (List String)
  | 0 => failure
  | fuel + 1 => do
    space
    let part ← namePart
    space
    if ← taken "." then return part :: (← nameParts fuel) else return [part]

def depthLimit : Nat := 80

/-- A dotted name: the parts before the last one, and the last one. -/
def name : Read (List String × String) := do
  let parts ← nameParts (← get).length
  match parts.getLast? with
  | some last => if parts.length < depthLimit then return (parts.dropLast, last) else failure
  | none => failure

/-- Digits, where a single underscore may stand between two of them; underscores are left out. -/
def digits (isDigit : Char → Bool) : Read (List Char) := do
  let run ← span fun c ↦ isDigit c || c == '_'
  let lone := (run.zip run.tail).all fun (a, b) ↦ a != '_' || b != '_'
  if lone && run.head?.any (· != '_') && run.getLast?.any (· != '_') then
    return run.filter (· != '_')
  else failure

def sign : Read (List Char) := return (← optional (one fun c ↦ c == '+' || c == '-')).toList

def decimal : Read (List Char) := do
  let s ← sign
  let ds ← digits Char.isDigit
  if ds.length ≠ 1 ∧ ds.head? = some '0' then failure else return s ++ ds

def based (mark : String) (base : Nat) : Read Int := do
  exactly mark
  let n ← readBase? base (← digits fun c ↦ (hexValue? c).any (· < base))
  if n < 0x8000000000000000 then return n else failure

def integer : Read Int :=
  based "0x" 16 <|> based "0o" 8 <|> based "0b" 2 <|> do readInt64? (← decimal)

def exponent : Read (List Char) := do
  let _ ← one fun c ↦ c == 'e' || c == 'E'
  return 'e' :: (← sign) ++ (← digits Char.isDigit)

def real : Read Unit :=
  (do
    let whole ← decimal
    let rest ← exponent <|> do
      exactly "."
      let fraction ← digits Char.isDigit
      return '.' :: fraction ++ (← optional exponent).getD []
    match Quantity.parse? (whole ++ rest) with
    | some (.infinite false) | none => failure
    | some _ => return) <|> do
    let _ ← sign
    exactly "inf" <|> exactly "nan"

def part (width least most : Nat) : Read Nat := do
  let n ← readDigits? (← (List.range width).mapM fun _ ↦ any)
  if least ≤ n ∧ n ≤ most then return n else failure

def monthLength (year month : Nat) : Nat :=
  if month = 2 then
    if year % 4 = 0 ∧ (year % 100 ≠ 0 ∨ year % 400 = 0) then 29 else 28
  else if month = 4 ∨ month = 6 ∨ month = 9 ∨ month = 11 then 30
  else 31

def date : Read Unit := do
  let year ← part 4 0 9999
  exactly "-"
  let month ← part 2 1 12
  exactly "-"
  let _ ← part 2 1 (monthLength year month)

def time : Read Unit := do
  let _ ← part 2 0 23
  exactly ":"
  let _ ← part 2 0 59
  exactly ":"
  let _ ← part 2 0 60
  if ← taken "." then
    let _ ← one Char.isDigit
    let _ ← span Char.isDigit

def zone : Read Unit := do
  match ← any with
  | 'Z' | 'z' => return
  | '+' | '-' =>
    let _ ← part 2 0 23
    exactly ":"
    let _ ← part 2 0 59
  | _ => failure

def moment : Read Unit :=
  (do
    date
    let _ ← optional do
      let _ ← one fun c ↦ c == 'T' || c == 't' || c == ' '
      time
      optional zone) <|> time

end AuditRules.Toml
