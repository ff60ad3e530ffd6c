import AuditRules.Text.Folding

namespace AuditRules

inductive CharClass where
  | set (s : CharSet)
  | complement (c : CharClass)
  | union (a b : CharClass)
  | intersection (a b : CharClass)
  | difference (a b : CharClass)
  | symmetricDifference (a b : CharClass)
  | folded (unicode : Bool) (c : CharClass)

namespace CharClass

def contains : CharClass → Char → Bool
  | set s, c => s.contains c
  | complement a, c => !a.contains c
  | union a b, c => a.contains c || b.contains c
  | intersection a b, c => a.contains c && b.contains c
  | difference a b, c => a.contains c && !b.contains c
  | symmetricDifference a b, c => a.contains c != b.contains c
  | folded unicode a, c =>
    (if unicode then Folding.variants c else Folding.asciiVariants c).any a.contains

def none : CharClass := set []

def single (c : Char) : CharClass := set [(c.toNat, c.toNat)]

def allBut (s : CharSet) : CharClass := complement (set s)

def unionOf (items : List CharClass) : CharClass := items.foldl union none

def ranges : CharClass → Nat
  | set s => s.length
  | complement a | folded _ a => a.ranges + 1
  | union a b | intersection a b | difference a b | symmetricDifference a b => a.ranges + b.ranges

end CharClass

end AuditRules
