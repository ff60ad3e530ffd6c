import AuditRules.Text.Quoted

namespace AuditRules

inductive RuleError where
  | missingKey (comparator key : String)
  | missingMode (comparator : String) (expected : List String)
  | ambiguousMode (comparator : String) (keys : List String)
  | invalidRule (comparator mode reason : String)
  | invalidExpression (expression reason : String)
  | invalidPattern (pattern reason : String)
  | unknownComparator (tag : String)
  | duplicateComparator (tag : String)
  | nestingTooDeep (checkId : String) (limit : Nat)
  /-- No error of a rule: elements that have to be sorted are in no order, and the program ends. -/
  | aborted
  deriving DecidableEq

inductive Code where
  | malformedRule
  | invalidOperand
  | registryFailure
  | nestingLimit
  | shapeMismatch
  deriving DecidableEq

namespace Code

def text : Code → String
  | malformedRule => "CMP001"
  | invalidOperand => "CMP002"
  | registryFailure => "CMP003"
  | nestingLimit => "CMP004"
  | shapeMismatch => "CMP010"

def description : Code → String
  | malformedRule => "Malformed rule specification"
  | invalidOperand => "Invalid comparison operand"
  | registryFailure => "Comparator registry failure"
  | nestingLimit => "Rule nesting limit exceeded"
  | shapeMismatch => "Actual value shape mismatch"

def all : List Code := [malformedRule, invalidOperand, registryFailure, nestingLimit, shapeMismatch]

def describe (text : String) : String :=
  ((all.find? (·.text == text)).map description).getD "Unknown code"

end Code

namespace RuleError

def message : RuleError → String
  | missingKey comparator key =>
    "Rule for comparator '" ++ comparator ++ "' is missing required key '" ++ key ++ "'"
  | missingMode comparator expected =>
    "Rule for comparator '" ++ comparator ++ "' names no mode; expected one of " ++
      Quoted.list expected
  | ambiguousMode comparator keys =>
    "Rule for comparator '" ++ comparator ++ "' names several modes " ++ Quoted.list keys ++
      "; exactly one is allowed"
  | invalidRule comparator mode reason =>
    "Invalid rule for '" ++ comparator ++ "::" ++ mode ++ "': " ++ reason
  | invalidExpression expression reason =>
    "Invalid number expression '" ++ expression ++ "': " ++ reason
  | invalidPattern pattern reason => "Invalid pattern '" ++ pattern ++ "': " ++ reason
  | unknownComparator tag => "No comparator registered for type '" ++ tag ++ "'"
  | duplicateComparator tag => "Duplicate comparator registration: " ++ tag
  | nestingTooDeep checkId limit =>
    "Rule nesting for check '" ++ checkId ++ "' exceeds the configured limit of " ++ toString limit
  | aborted => "user-provided comparison function does not correctly implement a total order"

def code : RuleError → Option Code
  | missingKey .. | missingMode .. | ambiguousMode .. | invalidRule .. => some .malformedRule
  | invalidExpression .. | invalidPattern .. => some .invalidOperand
  | unknownComparator .. | duplicateComparator .. => some .registryFailure
  | nestingTooDeep .. => some .nestingLimit
  | aborted => none

def report (e : RuleError) : String :=
  match e.code with
  | some code => "[" ++ code.text ++ "] " ++ code.description ++ ": " ++ e.message
  | none => e.message

end RuleError

end AuditRules
