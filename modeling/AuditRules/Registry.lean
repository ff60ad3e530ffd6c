import AuditRules.Comparator.Boolean
import AuditRules.Comparator.Mapping
import AuditRules.Comparator.Number
import AuditRules.Comparator.Sequence
import AuditRules.Comparator.Text
import AuditRules.Limits

namespace AuditRules

structure Registry where
  limits : Limits
  table : List (String × Comparator)

namespace Registry

def empty (limits : Limits) : Registry := ⟨limits, []⟩

def get? (r : Registry) (name : String) : Option Comparator := r.table.lookup name

def get (r : Registry) (name : String) : Except RuleError Comparator :=
  match r.get? name with
  | some c => .ok c
  | none => .error (.unknownComparator name)

def names (r : Registry) : List String :=
  insertionSort (fun a b ↦ decide (a < b)) (r.table.map (·.1))

def addName (c : Comparator) (table : List (String × Comparator)) (name : String) :
    List (String × Comparator) :=
  table.filter (·.1 != name) ++ [(name, c)]

/-- A comparator is registered under all its names, or, if one of them is taken, under none. -/
def register (r : Registry) (c : Comparator) : Evaluation Registry :=
  match c.names.find? fun name ↦ (r.get? name).isSome with
  | some taken => throw (.duplicateComparator taken)
  | none => do
    .log (.debug "Registered comparator" [("type", c.tag), ("aliases", ",".intercalate c.aliases),
      ("modes", ",".intercalate c.modes)])
    return { r with table := c.names.foldl (addName c) r.table }

def registerAll (r : Registry) (comparators : List Comparator) : Evaluation Registry :=
  comparators.foldlM register r

def builtin (engine : PatternEngine) : List Comparator :=
  [.number, .text engine, .boolean, .mapping, .sequence]

def standard (engine : PatternEngine) (limits : Limits) : Evaluation Registry := do
  let r ← (empty limits).registerAll (builtin engine)
  .log ⟨.info, none, "Comparator registry ready", [("types", ",".intercalate r.names),
    (Limits.nestingKey, toString limits.nesting)]⟩
  return r

/-- The verdict of a rule that may delegate through `remaining` more levels. -/
def evaluate (r : Registry) (checkId : String) (remaining : Nat) (spec actual : Value) :
    Evaluation Verdict := do
  let rule ← Rule.ofValue spec
  let comparator ← r.get (← rule.typeTag)
  let ctx : Context := {
    checkId
    depth := r.limits.nesting - remaining
    renderLimit := r.limits.rendering
    delegate := match remaining with
      | 0 => fun _ _ ↦ throw (.nestingTooDeep checkId r.limits.nesting)
      | remaining + 1 => r.evaluate checkId remaining }
  comparator.compare ctx rule actual

/-- The event that closes an evaluation, if the program goes on after it. -/
def closing (checkId : String) : Except RuleError Verdict → List Event
  | .ok verdict => [.debug "Check evaluated"
      [("check_id", checkId), ("outcome", verdict.outcome.text)]]
  | .error e => e.code.toList.map fun code ↦ ⟨.error, some code.text, "Rule evaluation failed",
      [("check_id", checkId), ("error", e.message)]⟩

def run (r : Registry) (checkId : String) (spec actual : Value) : Evaluation Verdict :=
  let evaluation := r.evaluate checkId r.limits.nesting spec actual
  { evaluation with events := evaluation.events ++ closing checkId evaluation.result }

def describe (r : Registry) : String :=
  "ComparatorRegistry \x7b types: " ++ Quoted.list r.names ++ ", config: " ++ r.limits.describe ++
    " \x7d"

end Registry

end AuditRules
