import AuditRules.Json.Reader
import AuditRules.Json.Record
import AuditRules.Verdict

namespace AuditRules.Verdict

def toValue (v : Verdict) : Value :=
  .object [("outcome", .string v.outcome.text), ("message", .string v.message)]

def ofDocument? (d : Json.Document) : Option Verdict := do
  match ← d.fields? ["outcome", "message"] with
  | [some outcome, some message] =>
    return ⟨← Outcome.ofText? (← outcome.name?), ← message.text?⟩
  | _ => none

def parse? (s : String) : Option Verdict := (Json.Document.parse? s).bind ofDocument?

end AuditRules.Verdict
