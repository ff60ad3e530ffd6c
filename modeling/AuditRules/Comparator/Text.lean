import AuditRules.Comparator
import AuditRules.Text.LetterCase

namespace AuditRules

/-- What makes a pattern into a test of texts, with or without regard to letter case, or gives the
reason why it does not. -/
abbrev PatternEngine := Bool → String → Except String (String → Bool)

def Value.toText? : Value → Option String
  | .string s => some s
  | .number n => some n.text
  | .bool b => some (if b then "true" else "false")
  | _ => none

namespace TextRule

inductive Mode where
  | equal
  | any
  | pattern

def Mode.key : Mode → String
  | equal => "match"
  | any => "match_any"
  | pattern => "regex_match"

def comparator : String := "string"

def modes : List (String × Mode) := [Mode.equal, .any, .pattern].map fun mode ↦ (mode.key, mode)

def equal (ignoreCase : Bool) (a b : String) : Bool :=
  if ignoreCase then LetterCase.lower a == LetterCase.lower b else a == b

def expectedText (mode : Mode) (v : Value) : Except RuleError String :=
  match v.toText? with
  | some s => .ok s
  | none =>
    .error (.invalidRule comparator mode.key ("expected a string, got " ++ v.compact))

def matchesPattern (engine : PatternEngine) (ignoreCase : Bool) (pattern text : String) :
    Except RuleError Bool :=
  match engine ignoreCase pattern with
  | .ok isMatch => .ok (isMatch text)
  | .error reason => .error (.invalidPattern pattern reason)

/-- Whether a text satisfies what is expected of it. Several texts are tried one by one. -/
def satisfied (engine : PatternEngine) (mode : Mode) (ignoreCase : Bool) (expected : Value)
    (text : String) : Except RuleError Bool :=
  match mode, expected with
  | .equal, v => return equal ignoreCase text (← expectedText .equal v)
  | .any, .array candidates =>
    candidates.anyM fun v ↦ return equal ignoreCase text (← expectedText .any v)
  | .any, _ => .error (.invalidRule comparator Mode.any.key "expected a list of strings")
  | .pattern, v => do matchesPattern engine ignoreCase (← expectedText .pattern v) text

def compare (engine : PatternEngine) (ctx : Context) (rule : Rule) (actual : Value) :
    Evaluation Verdict := do
  let (mode, expected) ← rule.select comparator modes
  ctx.event "Running string comparator" [("mode", mode.key)]
  match actual.toText? with
  | none =>
    return .fail ("string::" ++ mode.key ++ " failure. " ++ ctx.render actual ++
      " is not a string")
  | some text =>
    return .ofBool (← satisfied engine mode rule.ignoreCase expected text)
      ("string::" ++ mode.key ++ " failure. Expected=" ++ ctx.render expected ++ " Got=" ++
        ctx.render actual)

end TextRule

def Comparator.text (engine : PatternEngine) : Comparator where
  tag := TextRule.comparator
  aliases := []
  modes := TextRule.modes.map (·.1)
  compare := TextRule.compare engine

end AuditRules
