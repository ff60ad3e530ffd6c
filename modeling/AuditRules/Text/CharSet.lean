
namespace AuditRules

abbrev CharSet := List (Nat × Nat)

namespace CharSet

def contains (s : CharSet) (c : Char) : Bool :=
  s.any fun range ↦ range.1 ≤ c.toNat && c.toNat ≤ range.2

end CharSet

end AuditRules
