import AuditRules.Proofs.Comparator.Events
import AuditRules.Proofs.Registry

namespace AuditRules

open Evaluation (AgreesUpTo)

variable {engine : PatternEngine}

def Comparator.upTo (limit : Option Level) (c : Comparator) : Comparator :=
  { c with compare := fun ctx rule actual ↦ (c.compare ctx rule actual).upTo limit }

namespace Registry

def upTo (limit : Option Level) (r : Registry) : Registry :=
  { r with table := r.table.map fun entry ↦ (entry.1, entry.2.upTo limit) }

variable {r : Registry} {limit : Option Level} {checkId : String}

end Registry

end AuditRules
