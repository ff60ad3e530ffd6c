import AuditRules.Comparator
import AuditRules.Value.Equality

namespace AuditRules

namespace MappingRule

inductive Mode where
  | entries
  | any
  | keyAny
  | keyAll

def Mode.key : Mode → String
  | entries => "match"
  | any => "match_any"
  | keyAny => "match_key_any"
  | keyAll => "match_key_all"

def comparator : String := "dict"

def modes : List (String × Mode) :=
  [Mode.entries, .any, .keyAny, .keyAll].map fun mode ↦ (mode.key, mode)

mutual

/-- The first of the expected entries that is not satisfied, and why. -/
def mismatch? (ctx : Context) (ignoreCase : Bool) :
    List (String × Value) → Fields → Evaluation (Option String)
  | [], _ => pure none
  | (key, expected) :: rest, actual =>
    match actual.get? key with
    | none => pure (some ("key '" ++ key ++ "' not found"))
    | some found => do
      match ← valueMismatch? ctx ignoreCase key expected found with
      | some reason => pure (some reason)
      | none => mismatch? ctx ignoreCase rest actual

def valueMismatch? (ctx : Context) (ignoreCase : Bool) (key : String) :
    Value → Value → Evaluation (Option String)
  | expected, actual =>
    if expected.isTypedRule then do
      let verdict ← ctx.delegate expected actual
      return if verdict.passed then none
        else some ("key '" ++ key ++ "': " ++ verdict.message)
    else
      match expected, actual with
      | .object expectedFields, .object actualFields => do
        let reason ← mismatch? ctx ignoreCase expectedFields actualFields
        return reason.map fun r ↦ key ++ "." ++ r
      | expected, actual =>
        return if actual.equalFolded ignoreCase expected then none
          else some ("key '" ++ key ++ "' expected " ++ ctx.render expected ++ " got " ++
            ctx.render actual)

end

def expectedMapping (mode : Mode) (v : Value) : Except RuleError Fields :=
  match v with
  | .object fields => .ok fields
  | other =>
    .error (.invalidRule comparator mode.key ("expected a mapping, got " ++ other.compact))

def expectedKeys (mode : Mode) (v : Value) : Except RuleError (List String) :=
  match v with
  | .array items => items.mapM fun item ↦
    match item with
    | .string key => .ok key
    | other =>
      .error (.invalidRule comparator mode.key ("key must be a string, got " ++ other.compact))
  | _ => .error (.invalidRule comparator mode.key "expected a list of keys")

def expectedMappings (v : Value) : Except RuleError (List Value) :=
  match v with
  | .array items => .ok items
  | _ => .error (.invalidRule comparator Mode.any.key "expected a list of mappings")

def compareFields (ctx : Context) (mode : Mode) (ignoreCase : Bool) (expected actual : Value)
    (fields : Fields) : Evaluation Verdict :=
  match mode with
  | .entries => do
    match ← mismatch? ctx ignoreCase (← expectedMapping mode expected) fields with
    | none => return .checkPassed
    | some reason =>
      return .fail ("dict::match failure. " ++ reason ++ ". Got=" ++ ctx.render actual)
  | .any => do
    let found ← (← expectedMappings expected).anyM fun candidate ↦ do
      return (← mismatch? ctx ignoreCase (← expectedMapping mode candidate) fields).isNone
    return .ofBool found ("dict::match_any failure. Got=" ++ ctx.render actual)
  | .keyAny => do
    let keys ← expectedKeys mode expected
    return .ofBool (keys.any fields.contains)
      ("dict::match_key_any failure. None of " ++ Quoted.list keys ++ " found")
  | .keyAll => do
    let missing := (← expectedKeys mode expected).filter fun key ↦ !fields.contains key
    return .ofBool missing.isEmpty
      ("dict::match_key_all failure. Missing keys " ++ Quoted.list missing)

def compare (ctx : Context) (rule : Rule) (actual : Value) : Evaluation Verdict := do
  let (mode, expected) ← rule.select comparator modes
  ctx.event "Running dict comparator" [("mode", mode.key)]
  match actual with
  | .object fields => compareFields ctx mode rule.ignoreCase expected actual fields
  | _ =>
    return .fail ("dict::" ++ mode.key ++ " failure. " ++ ctx.render actual ++
      " is not a mapping")

end MappingRule

def Comparator.mapping : Comparator where
  tag := MappingRule.comparator
  aliases := ["mapping"]
  modes := MappingRule.modes.map (·.1)
  compare := MappingRule.compare

end AuditRules
