import AuditRules.Event
import AuditRules.Text.Blank
import AuditRules.Text.Digits

namespace AuditRules

structure Limits where
  nesting : Nat
  rendering : Nat
  deriving DecidableEq

namespace Limits

def default : Limits := ⟨32, 2048⟩

def minimum : Limits := ⟨1, 16⟩

def nestingKey : String := "max_nesting_depth"

def renderingKey : String := "max_rendered_value_length"

def describe (l : Limits) : String :=
  "EngineConfig \x7b " ++ nestingKey ++ ": " ++ toString l.nesting ++ ", " ++
    renderingKey ++ ": " ++ toString l.rendering ++ " \x7d"

def tooSmall? (l : Limits) : Option (String × Nat) :=
  if l.nesting < minimum.nesting then some (nestingKey, minimum.nesting)
  else if l.rendering < minimum.rendering then some (renderingKey, minimum.rendering)
  else none

/-- The limit that an environment variable sets. A value that is no number or below the minimum is
reported and has no effect. -/
def override (name : String) (value : Option String) (default minimum : Nat) :
    Nat × List Event :=
  match value with
  | none => (default, [])
  | some raw =>
    match (readNat64? (trimBlank raw.toList)).filter (minimum ≤ ·) with
    | some n => (n, [])
    | none => (default, [⟨.warn, none, "Ignoring invalid environment override",
        [("variable", name), ("value", raw), ("minimum", toString minimum),
          ("using", toString default)]⟩])

def ofEnvironment (lookup : String → Option String) : Limits × List Event :=
  let read (name : String) := override name (lookup name)
  let (nesting, first) := read "AUDIT_MAX_NESTING_DEPTH" default.nesting minimum.nesting
  let (rendering, second) :=
    read "AUDIT_MAX_RENDERED_VALUE_LENGTH" default.rendering minimum.rendering
  (⟨nesting, rendering⟩, first ++ second)

end Limits

end AuditRules
