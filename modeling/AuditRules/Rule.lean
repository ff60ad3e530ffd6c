import AuditRules.Json.Writer
import AuditRules.RuleError

namespace AuditRules

structure Rule where
  fields : Fields

namespace Rule

def typeKey : String := "type"

def ignoreCaseKey : String := "ignore_case"

def ofValue (v : Value) : Except RuleError Rule :=
  match v with
  | .object fields => .ok ⟨fields⟩
  | other => .error (.invalidRule "<unknown>" "<none>"
      ("rule specification must be a mapping, got " ++ other.compact))

def typeTag (rule : Rule) : Except RuleError String :=
  match rule.fields.get? typeKey with
  | some (.string tag) => .ok tag
  | some other => .error (.invalidRule "<unknown>" typeKey
      ("'type' must be a string, got " ++ other.compact))
  | none => .error (.missingKey "<unknown>" typeKey)

/-- Case is ignored only if the flag is true, not if it is merely there. -/
def ignoreCase (rule : Rule) : Bool :=
  match rule.fields.get? ignoreCaseKey with
  | some (.bool b) => b
  | _ => false

def require (rule : Rule) (comparator key : String) : Except RuleError Value :=
  match rule.fields.get? key with
  | some v => .ok v
  | none => .error (.missingKey comparator key)

/-- The one mode of a rule, out of a table of modes by their keys, and the value under its key. -/
def select {Mode : Type} (rule : Rule) (comparator : String) (modes : List (String × Mode)) :
    Except RuleError (Mode × Value) :=
  match modes.filter fun entry ↦ rule.fields.contains entry.1 with
  | [] => .error (.missingMode comparator (modes.map (·.1)))
  | [(key, mode)] => (rule.require comparator key).map (mode, ·)
  | found => .error (.ambiguousMode comparator (found.map (·.1)))

def selectMode (rule : Rule) (comparator : String) (keys : List String) :
    Except RuleError String :=
  (rule.select comparator (keys.map fun key ↦ (key, key))).map (·.1)

end Rule

namespace Value

/-- A mapping with a type tag is a rule of its own wherever it stands. -/
def isTypedRule (v : Value) : Bool := v.toObject?.any (·.contains Rule.typeKey)

/-- The rule under the first key of a mapping. -/
def nestedRule? : Value → Option Value
  | object ((_, inner) :: _) => if inner.isTypedRule then some inner else none
  | _ => none

end Value

end AuditRules
