import AuditRules.FileTree
import AuditRules.Json.Reader
import AuditRules.Json.Record

namespace AuditRules

structure Check where
  id : String
  description : Option String
  rule : Value
  actual : Value

structure Fixture where
  checks : List Check

inductive FixtureError where
  | unreadable (path : String) (fault : FileFault)
  | malformed (path : String)
  | noSuchPath (path : String)

def FixtureError.message : FixtureError → String
  | unreadable path fault => "Failed to read fixture '" ++ path ++ "': " ++ fault.message
  | malformed path => "Failed to parse fixture '" ++ path ++ "': no list of checks in JSON"
  | noSuchPath path => "Path is neither a fixture file nor a directory: " ++ path

def Check.value? (d : Json.Document) : Option Value := d.value? (Json.maxDepth - 3)

namespace Check

def description? : Option Json.Document → Option (Option String)
  | none | some .null => some none
  | some d => d.text?.map some

def actual? : Option Json.Document → Option Value
  | none => some .null
  | some d => value? d

/-- A check is a record; a missing description is none, and a missing value null. -/
def ofDocument? (d : Json.Document) : Option Check := do
  match ← d.fields? ["id", "description", "comparator", "actual"] with
  | [some id, description, some rule, actual] => do
    let description ← description? description
    let actual ← actual? actual
    return ⟨← id.text?, description, ← value? rule, actual⟩
  | _ => none

end Check

namespace Fixture

def ofDocument? (d : Json.Document) : Option Fixture := do
  match ← d.fields? ["checks"] with
  | [some (.array items)] => return ⟨← items.mapM Check.ofDocument?⟩
  | _ => none

def parse? (s : String) : Option Fixture := (Json.Document.parse? s).bind ofDocument?

def read (path : String) : Except FileFault String → Except FixtureError Fixture
  | .error fault => .error (.unreadable path fault)
  | .ok text =>
    match parse? text with
    | some fixture => .ok fixture
    | none => .error (.malformed path)

end Fixture

end AuditRules
