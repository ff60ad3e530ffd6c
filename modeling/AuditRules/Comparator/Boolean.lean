import AuditRules.Comparator

namespace AuditRules

def Value.toBool? : Value → Option Bool
  | .bool b => some b
  | .string s =>
    match String.ofList (s.toList.map Char.toLower) with
    | "true" => some true
    | "false" => some false
    | _ => none
  | _ => none

namespace BooleanRule

def comparator : String := "boolean"

def modeKey : String := "match"

def boolText (b : Bool) : String := if b then "true" else "false"

def compare (ctx : Context) (rule : Rule) (actual : Value) : Evaluation Verdict := do
  let (_, expected) ← rule.select comparator [(modeKey, ())]
  ctx.event "Running boolean::match" []
  match expected.toBool?, actual.toBool? with
  | none, _ =>
    throw (.invalidRule comparator modeKey ("expected a boolean, got " ++ expected.compact))
  | some e, some a =>
    return .ofBool (a == e)
      ("boolean::match failure. Expected=" ++ boolText e ++ " Got=" ++ boolText a)
  | some _, none =>
    return .fail ("boolean::match failure. " ++ ctx.render actual ++ " is not a boolean")

end BooleanRule

def Comparator.boolean : Comparator where
  tag := BooleanRule.comparator
  aliases := ["bool"]
  modes := [BooleanRule.modeKey]
  compare := BooleanRule.compare

end AuditRules
