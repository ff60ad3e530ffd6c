import AuditRules.Rule

namespace AuditRules

inductive ListRule where
  | size (expression : Value)
  | exactly (expected : List Value)
  | any (patterns : List Value)
  | all (patterns : List Value)
  | keyed (key : String) (args : List Fields)
  | filtered (filter rule : Fields)

namespace ListRule

def comparator : String := "list"

def mode : ListRule → String
  | size _ => "size"
  | exactly _ => "match"
  | any _ => "match_any"
  | all _ => "match_all"
  | keyed .. => "match_any_if_keyvalue_matches"
  | filtered .. => "filter_compare"

def items (mode : String) (v : Value) : Except RuleError (List Value) :=
  match v with
  | .array items => .ok items
  | _ => .error (.invalidRule comparator mode "expected a list")

def mapping (mode what : String) (v : Value) : Except RuleError Fields :=
  match v with
  | .object fields => .ok fields
  | other => .error (.invalidRule comparator mode
      ("'" ++ what ++ "' must be a mapping, got " ++ other.compact))

def keyedOf (mode : String) (payload : Value) : Except RuleError ListRule := do
  let parts : Rule := ⟨← mapping mode mode payload⟩
  match ← parts.require comparator "match_key" with
  | .string key =>
    let args ← items mode (← parts.require comparator "args")
    return keyed key (← args.mapM (mapping mode "args entry"))
  | _ => .error (.invalidRule comparator mode "'match_key' must be a string")

def filteredOf (mode : String) (payload : Value) : Except RuleError ListRule := do
  let parts : Rule := ⟨← mapping mode mode payload⟩
  let filter ← mapping mode "filter" (← parts.require comparator "filter")
  return filtered filter (← mapping mode "compare" (← parts.require comparator "compare"))

def modes : List (String × (Value → Except RuleError ListRule)) := [
  ("size", fun v ↦ .ok (size v)),
  ("match", fun v ↦ exactly <$> items "match" v),
  ("match_any", fun v ↦ any <$> items "match_any" v),
  ("match_all", fun v ↦ all <$> items "match_all" v),
  ("match_any_if_keyvalue_matches", keyedOf "match_any_if_keyvalue_matches"),
  ("filter_compare", filteredOf "filter_compare")]

def parse (rule : Rule) : Except RuleError ListRule := do
  let (read, payload) ← rule.select comparator modes
  read payload

end ListRule

end AuditRules
