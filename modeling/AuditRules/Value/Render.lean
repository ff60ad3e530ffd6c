import AuditRules.Json.Writer

namespace AuditRules

def truncate (limit : Nat) (s : String) : String :=
  if s.toList.length ≤ limit then s else String.ofList (s.toList.take limit) ++ "..."

/-- The value as it is shown in a message: a text as it is, anything else as JSON. -/
def Value.render (limit : Nat) : Value → String
  | .string s => truncate limit s
  | v => truncate limit v.compact

end AuditRules
