import AuditRules.Text.Property

namespace AuditRules

inductive Look where
  | textStart
  | textEnd
  | lineStart
  | lineEnd
  | anyLineStart
  | anyLineEnd
  | wordBoundary (unicode : Bool)
  | noWordBoundary (unicode : Bool)
  | wordStart (unicode : Bool)
  | wordEnd (unicode : Bool)
  | halfWordStart (unicode : Bool)
  | halfWordEnd (unicode : Bool)

inductive Pattern where
  | empty
  | look (l : Look)
  | char (c : CharClass)
  | sequence (a b : Pattern)
  | choice (a b : Pattern)
  | repetition (a : Pattern) (min : Nat) (max : Option Nat)

structure Place where
  before : Option Char
  after : Option Char

namespace Place

def ofText (before : Option Char) : List Char → List Place
  | [] => [⟨before, none⟩]
  | c :: cs => ⟨before, some c⟩ :: ofText (some c) cs

end Place

namespace Look

def isWord (unicode : Bool) (c : Char) : Bool :=
  if unicode then CharSet.contains Property.word c else c.isAlphanum || c == '_'

def holds (p : Place) : Look → Bool
  | textStart => p.before.isNone
  | textEnd => p.after.isNone
  | lineStart => p.before.all (· == '\n')
  | lineEnd => p.after.all (· == '\n')
  | anyLineStart => p.before.all fun c ↦ c == '\n' || (c == '\r' && p.after != some '\n')
  | anyLineEnd => p.after.all fun c ↦ c == '\r' || (c == '\n' && p.before != some '\r')
  | wordBoundary u => p.before.any (isWord u) != p.after.any (isWord u)
  | noWordBoundary u => p.before.any (isWord u) == p.after.any (isWord u)
  | wordStart u => !p.before.any (isWord u) && p.after.any (isWord u)
  | wordEnd u => p.before.any (isWord u) && !p.after.any (isWord u)
  | halfWordStart u => !p.before.any (isWord u)
  | halfWordEnd u => !p.after.any (isWord u)

end Look

namespace Pattern

abbrev Marks := List Bool

def Marks.union (a b : Marks) : Marks := a.zipWith (· || ·) b

/-- Marks reached from given ones by steps, each of which may be left out, at most `n` of them. -/
def Marks.upTo (step : Marks → Marks) : Nat → Marks → Marks
  | 0, marks => marks
  | n + 1, marks =>
    let more := marks.union (step marks)
    if more == marks then marks else upTo step n more

def Marks.exactly (step : Marks → Marks) : Nat → Marks → Marks
  | 0, marks => marks
  | n + 1, marks =>
    let next := step marks
    if next == marks then marks else exactly step n next

/-- The places where a match may end that begins at a marked place. All of them are found at once,
so that no order among the ways to match plays a part. -/
def ends (places : List Place) : Pattern → Marks → Marks
  | empty, marks => marks
  | look l, marks => marks.zipWith (fun m p ↦ m && l.holds p) places
  | char c, marks =>
    false :: (marks.zipWith (fun m p ↦ m && p.after.any c.contains) places).dropLast
  | sequence a b, marks => ends places b (ends places a marks)
  | choice a b, marks => (ends places a marks).union (ends places b marks)
  | repetition a min max, marks =>
    let least := Marks.exactly (ends places a) min marks
    let more := match max with
      | some n => Nat.min (n - min) places.length
      | none => places.length
    Marks.upTo (ends places a) more least

/-- Whether some part of a text is matched. -/
def isMatch (p : Pattern) (text : String) : Bool :=
  let places := Place.ofText none text.toList
  (p.ends places (places.map fun _ ↦ true)).any id

end Pattern

end AuditRules
