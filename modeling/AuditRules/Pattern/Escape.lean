import AuditRules.Pattern
import AuditRules.Pattern.Cursor
import AuditRules.Text.Digits

namespace AuditRules.Pattern

inductive Atom where
  | literal (c : Char) (code : Bool)
  | charClass (c : CharClass)
  | look (l : Look)

namespace Atom

open Read

def isHex (c : Char) : Bool := (hexValue? c).isSome

def scalar (first last : Nat) (digits : List Char) : Read Char :=
  match (readBase? 16 digits).filter (·.isValidChar) with
  | some n => return Char.ofNat n
  | none => throw (.malformed .hexScalar first last)

def fixedCode (first : Nat) : Nat → Read (List Char)
  | 0 => return []
  | n + 1 => do
    match ← peek with
    | none => fail .escapeEnd first
    | some c =>
      if isHex c then
        bumpBlank
        return c :: (← fixedCode first n)
      else failHere .hexDigit

def bracedCode (first : Nat) : Read Char := do
  bumpBlank
  let start ← place
  let digits ← takeWhile isHex
  match ← peek with
  | none => fail .escapeEnd first
  | some '\x7d' =>
    let last ← place
    bumpBlank
    if digits.isEmpty then throw (.malformed .hexEmpty (start - 1) (last + 1))
    else scalar start last digits
  | some _ => failHere .hexDigit

/-- A character by its code; the cursor is behind the letter that says how many digits it has. -/
def code (first digits : Nat) : Read Atom := do
  skipBlank
  match ← peek with
  | none => fail .escapeEnd first
  | some '\x7b' => return literal (← bracedCode first) false
  | some _ =>
    let start ← place
    let read ← fixedCode first digits
    return literal (← scalar start (← place) read) (digits == 2)

def named (first : Nat) (c : Option CharClass) (fault : Fault) : Read CharClass := do
  match c with
  | some c => return c
  | none => fail fault first

def valued? (name : List Char) : Option (Bool × List Char × List Char) :=
  let split (n : Nat) (i : Nat) := (name.take i, name.drop (i + n))
  match (List.range name.length).find? fun i ↦ ['!', '='].isPrefixOf (name.drop i) with
  | some i => some (true, split 2 i)
  | none =>
    match name.idxOf? ':' with
    | some i => some (false, split 1 i)
    | none => (name.idxOf? '=').map fun i ↦ (false, split 1 i)

def property (first : Nat) (complement : Bool) : Read Atom := do
  skipBlank
  let name ← match ← peek with
    | none => fail .escapeEnd first
    | some '\x7b' => do
      bumpBlank
      let name ← takeWhile (· != '\x7d')
      if ← atEnd then fail .escapeEnd first
      bump
      pure name
    | some '\\' => failHere .propertySyntax
    | some c => do
      bumpBlank
      pure [c]
  let (negative, found) ← match valued? name with
    | some (negative, property, value) => do
      let found ← named first (CharClass.valued? property value) .propertyValueUnknown
      pure (negative, found)
    | none => do
      let found ← named first (CharClass.named? name) .propertyUnknown
      pure (false, found)
  let flags ← flags
  if !flags.unicode then fail .unicodeNotAllowed first
  let closed := if flags.ignoreCase then .folded true found else found
  return .charClass (if complement != negative then .complement closed else closed)

def shorthand? (unicode : Bool) (c : Char) : Option CharSet :=
  match c, unicode with
  | 'd', true => some Category.decimalNumber
  | 's', true => some Property.whiteSpace
  | 'w', true => some Property.word
  | 'd', false => some [(0x30, 0x39)]
  | 's', false => some [(0x9, 0xD), (0x20, 0x20)]
  | 'w', false => some [(0x30, 0x39), (0x41, 0x5A), (0x5F, 0x5F), (0x61, 0x7A)]
  | _, _ => none

/-- A word boundary; a name in braces behind it makes it a special one. -/
def boundary (first : Nat) : Read Atom := do
  let unicode := (← flags).unicode
  let start ← get
  let isName (c : Char) : Bool := c.isAlpha || c == '-'
  if (← peek) != some '\x7b' then return .look (.wordBoundary unicode)
  bumpBlank
  match ← peek with
  | none => fail .boundaryOpen first
  | some c =>
    if isName c then
      let contents ← place
      let name ← takeWhile isName
      if (← peek) != some '\x7d' then fail .boundaryEnd start.place
      let last ← place
      bump
      match String.ofList name with
      | "start" => return .look (.wordStart unicode)
      | "end" => return .look (.wordEnd unicode)
      | "start-half" => return .look (.halfWordStart unicode)
      | "end-half" => return .look (.halfWordEnd unicode)
      | _ => throw (.malformed .boundaryUnknown contents last)
    else
      set start
      return .look (.wordBoundary unicode)

def control? (c : Char) : Option Char :=
  match c with
  | 'a' => some '\x07'
  | 'f' => some '\x0c'
  | 't' => some '\t'
  | 'n' => some '\n'
  | 'r' => some '\r'
  | 'v' => some '\x0b'
  | _ => none

def look? (unicode : Bool) (c : Char) : Option Look :=
  match c with
  | 'A' => some .textStart
  | 'z' => some .textEnd
  | 'B' => some (.noWordBoundary unicode)
  | '<' => some (.wordStart unicode)
  | '>' => some (.wordEnd unicode)
  | _ => none

def escape : Read Atom := do
  let first ← place
  bump
  match ← peek with
  | none => fail .escapeEnd first
  | some c =>
    bump
    let flags ← flags
    if c.isDigit then fail .backreference first
    else if c == 'x' then code first 2
    else if c == 'u' then code first 4
    else if c == 'U' then code first 8
    else if c == 'p' ∨ c == 'P' then property first (c == 'P')
    else if c == 'b' then boundary first
    else
      match shorthand? flags.unicode c.toLower, control? c, look? flags.unicode c with
      | some s, _, _ =>
        if c.isUpper then
          if flags.unicode then return .charClass (.complement (.set s)) else fail .notText first
        else return .charClass (.set s)
      | none, some d, _ => return .literal d false
      | none, none, some l => return .look l
      | none, none, none =>
        if c.toNat < 128 && !c.isAlphanum then return .literal c false
        else fail .escapeUnknown first

end Atom

end AuditRules.Pattern
