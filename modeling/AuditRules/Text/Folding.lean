import AuditRules.Text.Property.Table

namespace AuditRules.Folding

def fold (n : Nat) : Nat :=
  match Property.folding.find? fun run ↦
    run.1 ≤ n && n ≤ run.2.1 && (n - run.1) % run.2.2.1 == 0 with
  | some run => ((n : Int) + run.2.2.2).toNat
  | none => n

/-- The characters that differ from a character at most in case. -/
def variants (c : Char) : List Char :=
  let target := fold c.toNat
  let sources := Property.folding.filterMap fun run ↦
    let n := ((target : Int) - run.2.2.2).toNat
    if fold n == target then some (Char.ofNat n) else none
  c :: Char.ofNat target :: sources

def asciiVariants (c : Char) : List Char := [c, c.toLower, c.toUpper]

end AuditRules.Folding
