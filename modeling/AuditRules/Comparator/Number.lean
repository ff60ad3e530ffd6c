import AuditRules.Comparator
import AuditRules.NumberExpression

namespace AuditRules

def Value.toQuantity? : Value → Option Quantity
  | .number n => some n.quantity
  | .string s => Quantity.parse? (trimBlank s.toList)
  | _ => none

namespace NumberRule

inductive Mode where
  | one
  | any

def Mode.key : Mode → String
  | one => "match"
  | any => "match_any"

def comparator : String := "number"

def modes : List (String × Mode) := [Mode.one, .any].map fun mode ↦ (mode.key, mode)

def compareOne (site : Site) (expected actual : Value) (q : Quantity) :
    Except RuleError Verdict := do
  let expression ← NumberExpression.parse expected
  return .ofBool (expression.holds q)
    ("number::match failure. Expected=" ++ expression.text ++ " Got=" ++ site.render actual)

/-- Expressions are read one by one, up to the first that holds. -/
def compareAny (site : Site) (expected actual : Value) (q : Quantity) :
    Except RuleError Verdict :=
  match expected with
  | .array candidates => do
    let found ← candidates.anyM fun candidate ↦
      return (← NumberExpression.parse candidate).holds q
    return .ofBool found ("number::match_any failure. Expected any of " ++ site.render expected ++
      " Got=" ++ site.render actual)
  | _ => .error (.invalidRule comparator Mode.any.key "expected a list of expressions")

def compare (ctx : Context) (rule : Rule) (actual : Value) : Evaluation Verdict := do
  let (mode, expected) ← rule.select comparator modes
  ctx.event "Running number comparator" [("mode", mode.key)]
  match actual.toQuantity?, mode with
  | none, _ =>
    return .fail ("number::" ++ mode.key ++ " failure. " ++ ctx.render actual ++
      " is not a number")
  | some q, .one => compareOne ctx.toSite expected actual q
  | some q, .any => compareAny ctx.toSite expected actual q

end NumberRule

def Comparator.number : Comparator where
  tag := NumberRule.comparator
  aliases := []
  modes := NumberRule.modes.map (·.1)
  compare := NumberRule.compare

end AuditRules
