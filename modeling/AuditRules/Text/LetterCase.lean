import AuditRules.Text.LetterCase.Table

namespace AuditRules.LetterCase

def lowerChar (c : Char) : Char :=
  let n := c.toNat
  match lowering.find? fun run ↦ run.1 ≤ n && n ≤ run.2.1 && (n - run.1) % run.2.2.1 == 0 with
  | some run => Char.ofNat ((n : Int) + run.2.2.2).toNat
  | none => c

/-- Whether a letter with case comes next, behind characters that do not end a word. -/
def casedNext (cs : List Char) : Bool := (cs.dropWhile ignorable.contains).head?.any cased.contains

/-- The lower-case form of one character between the characters before it, the nearest first, and
those after it. A capital sigma that ends a word has a form of its own. -/
def lowerAt (before : List Char) (c : Char) (after : List Char) : List Char :=
  if c = 'Σ' then [if casedNext before && !casedNext after then 'ς' else 'σ']
  else if c = 'İ' then ['i', '\u0307']
  else [lowerChar c]

def lowerFrom (before : List Char) : List Char → List Char
  | [] => []
  | c :: cs => lowerAt before c cs ++ lowerFrom (c :: before) cs

def lower (s : String) : String := String.ofList (lowerFrom [] s.toList)

end AuditRules.LetterCase
