import AuditRules.Pattern.Bracket

namespace AuditRules.Pattern

structure Part where
  pattern : Pattern
  depth : Nat
  repeatable : Bool

namespace Part

def leaf (p : Pattern) : Part := ⟨p, 0, true⟩

/-- Parts read in reverse, joined by `join`; a single part stays as it is. -/
def joined (join : Pattern → Pattern → Pattern) : List Part → Part
  | [] => leaf .empty
  | [part] => part
  | part :: rest =>
    ⟨rest.foldl (fun p q ↦ join q.pattern p) part.pattern,
      1 + ((part :: rest).map (·.depth)).foldl max 0, true⟩

end Part

structure Level where
  branches : List Part
  items : List Part

namespace Level

def start : Level := ⟨[], []⟩

def push (l : Level) (part : Part) : Level := { l with items := part :: l.items }

def nextBranch (l : Level) : Level := ⟨Part.joined .sequence l.items :: l.branches, []⟩

def part (l : Level) : Part := Part.joined .choice l.nextBranch.branches

end Level

structure Group where
  place : Nat
  flags : Flags
  around : Level

structure Reading where
  level : Level
  groups : List Group
  names : List (List Char)

namespace Reading

open Read

def push (r : Reading) (part : Part) : Reading := { r with level := r.level.push part }

def lastPart (r : Reading) : Read (Part × Reading) := do
  match r.level.items with
  | part :: items =>
    if part.repeatable then return (part, { r with level := { r.level with items } })
    else fail .repetitionMissing (← place)
  | [] => fail .repetitionMissing (← place)

def repeated (r : Reading) (part : Part) (min : Nat) (max : Option Nat) : Reading :=
  r.push ⟨.repetition part.pattern min max, part.depth + 1, true⟩

/-- A repetition by a mark; a question mark behind it changes nothing that can be seen. -/
def mark (r : Reading) (min : Nat) (max : Option Nat) : Read Reading := do
  let (part, r) ← r.lastPart
  bump
  let _ ← take "?"
  return r.repeated part min max

def number : Read (Option Nat) := do
  let blank := (← get).rest.takeWhile isBlank
  advance blank.length
  let first ← place
  let digits ← takeWhile fun c ↦ c.isDigit
  let last ← place
  let _ ← takeWhile isBlank
  match readDigits? digits with
  | none => return none
  | some n =>
    if n < 0x100000000 then return some n else throw (.malformed .countTooLarge first last)

def counted (r : Reading) : Read Reading := do
  let first ← place
  let (part, r) ← r.lastPart
  bumpBlank
  if ← atEnd then fail .countEnd first
  let least ← number
  if ← atEnd then fail .countEnd first
  let (least, most) ← match least, ← peek with
    | least, some ',' => do
      bumpBlank
      if ← atEnd then fail .countEnd first
      match least, ← peek with
      | some n, some '\x7d' => pure (n, none)
      | none, _ => failHere .countMissing
      | some n, _ =>
        match ← number with
        | some m => pure (n, some m)
        | none => failHere .countMissing
    | some n, _ => pure (n, some n)
    | none, _ => failHere .countMissing
  if (← peek) != some '\x7d' then fail .countEnd first
  bumpBlank
  let _ ← take "?"
  if most.any (· < least) then fail .countOrder first
  return r.repeated part least most

def isNameChar (start : Bool) (c : Char) : Bool :=
  c == '_' || CharSet.contains Property.alphabetic c ||
    (!start && (c == '.' || c == '[' || c == ']' || CharSet.contains Category.number c))

def groupName (r : Reading) : Read (List Char) := do
  let first ← place
  let name := (← get).rest.takeWhile (· != '>')
  let valid :=
    if (name.take 1).all (isNameChar true) then
      1 + ((name.drop 1).takeWhile (isNameChar false)).length
    else 0
  if valid < name.length then
    advance valid
    failHere .invalidGroupName
  advance name.length
  if ← atEnd then fail .groupNameEnd first
  if name.isEmpty then throw (.malformed .emptyGroupName first first)
  if r.names.contains name then fail .repeatedGroupName first
  bump
  return name

def flagged (on : Bool) (flags : Flags) : Char → Option (Bool × Flags)
  | '-' => some (false, flags)
  | 'i' => some (on, { flags with ignoreCase := on })
  | 'm' => some (on, { flags with multiLine := on })
  | 's' => some (on, { flags with dotAll := on })
  | 'U' => some (on, flags)
  | 'u' => some (on, { flags with unicode := on })
  | 'R' => some (on, { flags with crlf := on })
  | 'x' => some (on, { flags with verbose := on })
  | _ => none

def readFlags (seen : List Char) (on : Bool) (flags : Flags) : Nat → Read (List Char × Flags)
  | 0 => failHere .flagEnd
  | fuel + 1 => do
    match ← peek with
    | none => do
      let p ← place
      throw (.malformed .flagEnd p p)
    | some c =>
      if c == ':' || c == ')' then
        if seen.head? == some '-' then
          throw (.malformed .danglingNegation ((← place) - 1) (← place))
        return (seen, flags)
      if seen.contains c then failHere (if c == '-' then .repeatedNegation else .repeatedFlag)
      match flagged on flags c with
      | none => failHere .flagUnknown
      | some (on, flags) => do
        bump
        readFlags (c :: seen) on flags fuel

def setFlags (flags : Flags) : Read Unit := modify fun c ↦ { c with flags }

def openGroup (r : Reading) : Read Reading := do
  let first ← place
  let outer ← flags
  let enter (r : Reading) : Reading :=
    { r with level := .start, groups := ⟨first, outer, r.level⟩ :: r.groups }
  bump
  skipBlank
  let inner ← place
  if (← take "?=") || (← take "?!") || (← take "?<=") || (← take "?<!") then
    fail .lookAround first
  if (← take "?P<") || (← take "?<") then
    let name ← r.groupName
    return { enter r with names := name :: r.names }
  if !(← take "?") then return enter r
  if ← atEnd then throw (.malformed .unclosedGroup first (first + 1))
  let (seen, changed) ← readFlags [] true outer (← get).rest.length.succ
  let closes := (← peek) == some ')'
  bump
  if closes && seen.isEmpty then throw (.malformed .repetitionMissing inner inner)
  setFlags changed
  return if closes then r.push ⟨.empty, 0, false⟩ else enter r

def closeGroup (r : Reading) : Read Reading := do
  match r.groups with
  | [] => failHere .unopenedGroup
  | group :: groups => do
    bump
    setFlags group.flags
    let part := r.level.part
    return { r with
      level := group.around.push ⟨part.pattern, part.depth + 1, true⟩
      groups := groups }

/-- A character as a part: the class of those that do not differ from it where case is ignored. -/
def literal (flags : Flags) (c : Char) : Pattern :=
  if flags.ignoreCase && (flags.unicode || c.isAlpha) then
    .char (.folded flags.unicode (.single c))
  else .char (.single c)

def ofAtom (first : Nat) : Atom → Read Pattern
  | .literal c code => do
    let flags ← flags
    if code && !flags.unicode && 128 ≤ c.toNat then fail .notText first
    return literal flags c
  | .charClass c => return .char c
  | .look l => return .look l

def anyChar (flags : Flags) : CharClass :=
  if flags.dotAll then .allBut []
  else if flags.crlf then .allBut [(0xA, 0xA), (0xD, 0xD)]
  else .allBut [(0xA, 0xA)]

def lineStart (flags : Flags) : Look :=
  if !flags.multiLine then .textStart else if flags.crlf then .anyLineStart else .lineStart

def lineEnd (flags : Flags) : Look :=
  if !flags.multiLine then .textEnd else if flags.crlf then .anyLineEnd else .lineEnd

/-- One step over the text of a pattern, by at least a character. -/
def step (r : Reading) (c : Char) : Read Reading := do
  let flags ← flags
  let first ← place
  let single (p : Pattern) : Read Reading := do
    bump
    return r.push (.leaf p)
  match c with
  | '(' => r.openGroup
  | ')' => r.closeGroup
  | '|' => do
    bump
    return { r with level := r.level.nextBranch }
  | '[' => do
    let m ← Members.bracket (← get).rest.length.succ
    return r.push ⟨.char m.charClass, m.depth, true⟩
  | '?' => r.mark 0 (some 1)
  | '*' => r.mark 0 none
  | '+' => r.mark 1 none
  | '\x7b' => r.counted
  | '\\' => do return r.push (.leaf (← ofAtom first (← Atom.escape)))
  | '.' => do
    let r ← single (.char (anyChar flags))
    if !flags.unicode then fail .notText first
    return r
  | '^' => single (.look (lineStart flags))
  | '$' => single (.look (lineEnd flags))
  | c => single (literal flags c)

def steps (r : Reading) : Nat → Read Reading
  | 0 => return r
  | fuel + 1 => do
    skipBlank
    match ← peek with
    | none => return r
    | some c => (← r.step c).steps fuel

end Reading

/-- An estimate of the size of a compiled pattern, in bytes. -/
def weight : Pattern → Nat
  | empty | look _ => 32
  | char c => if c.ranges ≤ 2 then 32 else 64 * c.ranges
  | sequence a b => a.weight + b.weight
  | choice a b => a.weight + b.weight + 40
  | repetition a min max =>
    match max with
    | some n => min * a.weight + (n - min) * (a.weight + 40)
    | none => Nat.max min 1 * a.weight + 40

def compile (ignoreCase : Bool) (text : String) : Except Error Pattern := do
  let cs := text.toList
  let flags : Flags := ⟨ignoreCase, false, false, false, true, false⟩
  let (r, _) ← (Reading.steps ⟨.start, [], []⟩ cs.length.succ).run ⟨0, cs, flags⟩
  match r.groups with
  | group :: _ => throw (.malformed .unclosedGroup group.place (group.place + 1))
  | [] =>
    let part := r.level.part
    if Fault.maxDepth < part.depth then throw (.malformed .nesting 0 cs.length)
    else if Error.sizeLimit < part.pattern.weight then throw .tooLarge
    else return part.pattern

/-- Patterns as tests of texts. -/
def engine (ignoreCase : Bool) (text : String) : Except String (String → Bool) :=
  match compile ignoreCase text with
  | .ok p => .ok p.isMatch
  | .error e => .error (e.message text)

end AuditRules.Pattern
