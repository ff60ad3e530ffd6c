import AuditRules.Json.Document

namespace AuditRules.Json.Document

def field? (entries : List (String × Document)) (name : String) : Option (Option Document) :=
  match entries.filter (·.1 == name) with
  | [] => some none
  | [(_, d)] => some (some d)
  | _ => none

/-- The documents of the fields of a record. Keys that are no field's name are ignored whatever they
hold, and no list may be longer. -/
def fields? (names : List String) : Document → Option (List (Option Document))
  | .object entries => do
    let entries ← entries.mapM fun (key, d) ↦ (Json.text? key).map (·, d)
    names.mapM (field? entries)
  | .array items =>
    if items.length ≤ names.length then some (names.zipIdx.map fun (_, i) ↦ items[i]?) else none
  | _ => none

def text? : Document → Option String
  | .string pieces => Json.text? pieces
  | _ => none

/-- One of a set of names: written as text, or as the only key of a mapping, over null. -/
def name? : Document → Option String
  | .object [(key, .null)] => Json.text? key
  | d => d.text?

end AuditRules.Json.Document
