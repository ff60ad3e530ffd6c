import AuditRules.Json.Writer
import AuditRules.Quantity.Text
import AuditRules.RuleError
import AuditRules.Text.Blank

namespace AuditRules

inductive Relation where
  | equal
  | notEqual
  | greater
  | greaterOrEqual
  | less
  | lessOrEqual
  deriving DecidableEq

namespace Relation

def symbol : Relation → String
  | equal => "=="
  | notEqual => "!="
  | greater => ">"
  | greaterOrEqual => ">="
  | less => "<"
  | lessOrEqual => "<="

/-- The relations in the order in which a text is tried for them, so that no symbol comes before one
that it begins. -/
def all : List Relation := [greaterOrEqual, lessOrEqual, equal, notEqual, greater, less]

/-- Whether two quantities stand in a relation. What is no number is unequal to everything and
stands in no other relation. -/
def holds (r : Relation) (a b : Quantity) : Bool :=
  match r, a.compare? b with
  | equal, o => o == some .eq
  | notEqual, o => o != some .eq
  | greater, o => o == some .gt
  | greaterOrEqual, o => o == some .gt || o == some .eq
  | less, o => o == some .lt
  | lessOrEqual, o => o == some .lt || o == some .eq

def split (cs : List Char) : Relation × List Char :=
  match all.find? fun r ↦ r.symbol.toList.isPrefixOf cs with
  | some r => (r, cs.drop r.symbol.toList.length)
  | none => (equal, cs)

end Relation

structure NumberExpression where
  relation : Relation
  operand : Quantity
  deriving DecidableEq

namespace NumberExpression

def parseText (text : String) : Except RuleError NumberExpression :=
  let (relation, rest) := Relation.split (trimBlank text.toList)
  let operand := trimBlank rest
  if operand.isEmpty then .error (.invalidExpression text "missing operand")
  else
    match Quantity.parse? operand with
    | some q => .ok ⟨relation, q⟩
    | none => .error (.invalidExpression text "invalid float literal")

def parse : Value → Except RuleError NumberExpression
  | .number n => .ok ⟨.equal, n.quantity⟩
  | .string s => parseText s
  | other =>
    .error (.invalidExpression other.compact "expected a number or an expression string")

def holds (e : NumberExpression) (actual : Quantity) : Bool := e.relation.holds actual e.operand

def text (e : NumberExpression) : String := e.relation.symbol ++ " " ++ e.operand.toText

end NumberExpression

end AuditRules
