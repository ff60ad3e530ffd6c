import AuditRules.FileTree
import AuditRules.Limits
import AuditRules.Toml.Reader

namespace AuditRules

inductive LimitsError where
  | unreadable (path : String) (fault : FileFault)
  | malformed
  | tooSmall (key : String) (minimum : Nat)

def LimitsError.message : LimitsError → String
  | unreadable path fault => "Failed to read config file '" ++ path ++ "': " ++ fault.message
  | malformed => "Failed to parse config: no limits in TOML"
  | tooSmall key minimum =>
    "Invalid config value for '" ++ key ++ "': must be at least " ++ toString minimum

structure Limits.Overrides where
  nesting : Option Nat
  rendering : Option Nat

namespace Limits.Overrides

def read? (entries : Toml.Entries) (key : String) : Option (Option Nat) :=
  match entries.lookup key with
  | none => some none
  | some (.integer n) => if 0 ≤ n then some (some n.toNat) else none
  | some _ => none

def parse? (s : String) : Option Overrides := do
  let entries ← Toml.parse? s
  return ⟨← read? entries nestingKey, ← read? entries renderingKey⟩

end Limits.Overrides

namespace Limits

def overriddenBy (l : Limits) (o : Overrides) : Limits :=
  ⟨o.nesting.getD l.nesting, o.rendering.getD l.rendering⟩

def validate (l : Limits) : Except LimitsError Limits :=
  match l.tooSmall? with
  | some (key, minimum) => .error (.tooSmall key minimum)
  | none => .ok l

def parse (l : Limits) (s : String) : Except LimitsError Limits :=
  match Overrides.parse? s with
  | some o => (l.overriddenBy o).validate
  | none => .error .malformed

/-- The limits of the file at a path, given what the path leads to, over given ones. -/
def load (l : Limits) (path : String) (found : Except FileFault FileTree) :
    Except LimitsError Limits :=
  match found >>= FileTree.text with
  | .ok s => l.parse s
  | .error fault => .error (.unreadable path fault)

end Limits

end AuditRules
