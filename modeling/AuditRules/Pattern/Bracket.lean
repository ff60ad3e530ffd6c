import AuditRules.Pattern.Escape

namespace AuditRules.Pattern

structure Members where
  charClass : CharClass
  depth : Nat

inductive SetOperation where
  | intersection
  | difference
  | symmetricDifference

namespace Members

open Read

def ascii : List (String × CharSet) := [
  ("alnum", [(0x30, 0x39), (0x41, 0x5A), (0x61, 0x7A)]),
  ("alpha", [(0x41, 0x5A), (0x61, 0x7A)]),
  ("ascii", [(0, 0x7F)]),
  ("blank", [(0x9, 0x9), (0x20, 0x20)]),
  ("cntrl", [(0, 0x1F), (0x7F, 0x7F)]),
  ("digit", [(0x30, 0x39)]),
  ("graph", [(0x21, 0x7E)]),
  ("lower", [(0x61, 0x7A)]),
  ("print", [(0x20, 0x7E)]),
  ("punct", [(0x21, 0x2F), (0x3A, 0x40), (0x5B, 0x60), (0x7B, 0x7E)]),
  ("space", [(0x9, 0xD), (0x20, 0x20)]),
  ("upper", [(0x41, 0x5A)]),
  ("word", [(0x30, 0x39), (0x41, 0x5A), (0x5F, 0x5F), (0x61, 0x7A)]),
  ("xdigit", [(0x30, 0x39), (0x41, 0x46), (0x61, 0x66)])]

/-- A class of ASCII characters in brackets and colons at the start of a text: whether it is the
complement, and the length of its name. -/
def asciiClass? : List Char → Option (Bool × CharSet × Nat)
  | '[' :: ':' :: cs =>
    let (negated, cs) := match cs with
      | '^' :: cs => (true, cs)
      | cs => (false, cs)
    let name := cs.takeWhile (· != ':')
    if [':', ']'].isPrefixOf (cs.drop name.length) then
      (ascii.lookup (String.ofList name)).map fun s ↦ (negated, s, name.length)
    else none
  | _ => none

/-- Adds what differs in case, then takes the complement. Where patterns are not Unicode, a class
must not hold anything outside of ASCII. -/
def close (first : Nat) (negated : Bool) (c : CharClass) : Read CharClass := do
  let flags ← flags
  let closed := if flags.ignoreCase then .folded flags.unicode c else c
  let result := if negated then .complement closed else closed
  if !flags.unicode && result.contains '\u0080' then fail .notText first
  return result

def literal (first : Nat) (c : Char) (code : Bool) : Read Char := do
  if !(← flags).unicode && 128 ≤ c.toNat then
    fail (if code then .notText else .unicodeNotAllowed) first
  return c

def atom : Read Atom := do
  match ← peek with
  | some '\\' => Atom.escape
  | some c => do
    bump
    return .literal c false
  | none => failHere .unclosedClass

def ofAtom (first : Nat) : Atom → Read CharClass
  | .literal c code => return .single (← literal first c code)
  | .charClass c => return c
  | .look _ => fail .classEscape first

def element (opened : Nat × Nat) : Read CharClass := do
  let unclosed : Read Unit := do
    if ← atEnd then throw (.malformed .unclosedClass opened.1 opened.2)
  let first ← place
  let low ← atom
  let firstEnd ← place
  skipBlank
  unclosed
  let next ← peekNext
  if (← peek) != some '-' || next == some ']' || next == some '-' then
    match low with
    | .look _ => throw (.malformed .classEscape first firstEnd)
    | low => ofAtom first low
  else
    bumpBlank
    unclosed
    let second ← place
    match low, ← atom with
    | .literal a codeA, .literal b codeB =>
      let a ← literal first a codeA
      let b ← literal second b codeB
      if b < a then fail .classRange first
      return .set [(a.toNat, b.toNat)]
    | .literal .., _ => fail .classRangeBound second
    | _, _ => throw (.malformed .classRangeBound first firstEnd)

def union (items : List Members) : Members :=
  match items with
  | [m] => m
  | ms => ⟨.unionOf (ms.reverse.map (·.charClass)),
      1 + (ms.map (·.depth)).foldl max 0⟩

def combine (ignoreCase unicode : Bool) (waiting : Option (SetOperation × Members))
    (right : Members) : Members :=
  let close (c : CharClass) : CharClass := if ignoreCase then .folded unicode c else c
  match waiting with
  | none => right
  | some (operation, left) =>
    let a := close left.charClass
    let b := close right.charClass
    ⟨match operation with
      | .intersection => .intersection a b
      | .difference => .difference a b
      | .symmetricDifference => .symmetricDifference a b, 1 + max left.depth right.depth⟩

def operation? : Read (Option SetOperation) := do
  if ← take "&&" then return some .intersection
  if ← take "--" then return some .difference
  if ← take "~~" then return some .symmetricDifference
  return none

def leading (first : Nat) : Read (List Members) := do
  let unclosed : Read Unit := do if ← atEnd then fail .unclosedClass first
  let hyphens ← takeWhile (· == '-')
  unclosed
  let items := hyphens.map fun c ↦ (⟨.single c, 0⟩ : Members)
  if items.isEmpty && (← peek) == some ']' then
    bumpBlank
    unclosed
    return [⟨.single ']', 0⟩]
  return items

mutual

/-- A class; the cursor is at its opening bracket, and `fuel` is the length of the text there. -/
def bracket (fuel : Nat) : Read Members := do
  match fuel with
  | 0 => failHere .unclosedClass
  | fuel + 1 =>
    let first ← place
    bumpBlank
    if ← atEnd then fail .unclosedClass first
    let negated := (← peek) == some '^'
    if negated then
      bumpBlank
      if ← atEnd then fail .unclosedClass first
    let items ← leading first
    let opened := (first, ← place)
    let inner ← members fuel opened items none
    return ⟨← close first negated inner.charClass, 1 + inner.depth⟩

def members (fuel : Nat) (opened : Nat × Nat) (items : List Members)
    (waiting : Option (SetOperation × Members)) : Read Members := do
  match fuel with
  | 0 => failHere .unclosedClass
  | fuel + 1 =>
    skipBlank
    let flags ← flags
    let done := combine flags.ignoreCase flags.unicode waiting (union items)
    match ← peek with
    | none => throw (.malformed .unclosedClass opened.1 opened.2)
    | some ']' => do
      bump
      return done
    | some '[' => do
      match asciiClass? (← get).rest with
      | some (negated, s, length) => do
        let first ← place
        advance (length + (if negated then 5 else 4))
        let c ← close first negated (.set s)
        members fuel opened (⟨c, 0⟩ :: items) waiting
      | none => do
        let inner ← bracket fuel
        members fuel opened (inner :: items) waiting
    | some _ => do
      match ← operation? with
      | some operation => members fuel opened [] (some (operation, done))
      | none => do
        let c ← element opened
        members fuel opened (⟨c, 0⟩ :: items) waiting

end

end Members

end AuditRules.Pattern
