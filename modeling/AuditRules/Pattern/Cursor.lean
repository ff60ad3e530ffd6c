import AuditRules.Pattern.Error
import AuditRules.Text.Blank

namespace AuditRules

structure Pattern.Flags where
  ignoreCase : Bool
  multiLine : Bool
  dotAll : Bool
  crlf : Bool
  unicode : Bool
  verbose : Bool

structure Pattern.Cursor where
  place : Nat
  rest : List Char
  flags : Pattern.Flags

abbrev Pattern.Read := StateT Pattern.Cursor (Except Pattern.Error)

namespace Pattern.Read

variable {α : Type}

def place : Read Nat := return (← get).place

def flags : Read Flags := return (← get).flags

def peek : Read (Option Char) := return (← get).rest.head?

def atEnd : Read Bool := return (← get).rest.isEmpty

def fail (fault : Fault) (first : Nat) : Read α := do throw (.malformed fault first (← place))

def failHere (fault : Fault) : Read α := do
  let p ← place
  throw (.malformed fault p (p + 1))

def advance (n : Nat) : Read Unit :=
  modify fun c ↦ { c with place := c.place + min n c.rest.length, rest := c.rest.drop n }

def blankLength (inComment : Bool) : List Char → Nat
  | [] => 0
  | c :: cs =>
    if inComment then 1 + blankLength (c != '\n') cs
    else if isBlank c then 1 + blankLength false cs
    else if c == '#' then 1 + blankLength true cs
    else 0

def skipBlank : Read Unit := do
  let c ← get
  if c.flags.verbose then advance (blankLength false c.rest)

def bump : Read Unit := advance 1

def bumpBlank : Read Unit := do
  bump
  skipBlank

def peekNext : Read (Option Char) := do
  let c ← get
  let rest := c.rest.drop 1
  return (if c.flags.verbose then rest.drop (blankLength false rest) else rest).head?

def take (s : String) : Read Bool := do
  if s.toList.isPrefixOf (← get).rest then
    advance s.toList.length
    return true
  else return false

/-- Moves over the characters of a kind that come next, and what is skipped after each. -/
def takeWhile (kind : Char → Bool) : Read (List Char) := do
  go (← get).rest.length
where
  go : Nat → Read (List Char)
    | 0 => return []
    | n + 1 => do
      match ← peek with
      | some c =>
        if kind c then
          bumpBlank
          return c :: (← go n)
        else return []
      | none => return []

end Pattern.Read

end AuditRules
