
namespace AuditRules

/-- A rule that does not apply to the data counts as passed. -/
inductive Outcome where
  | passed
  | failed
  | notApplicable
  deriving DecidableEq

namespace Outcome

def text : Outcome → String
  | passed => "passed"
  | failed => "failed"
  | notApplicable => "not_applicable"

def all : List Outcome := [passed, failed, notApplicable]

def ofText? (s : String) : Option Outcome := all.find? (·.text == s)

end Outcome

structure Verdict where
  outcome : Outcome
  message : String
  deriving DecidableEq

namespace Verdict

def pass (message : String) : Verdict := ⟨.passed, message⟩

def fail (message : String) : Verdict := ⟨.failed, message⟩

def notApplicable (message : String) : Verdict := ⟨.notApplicable, message⟩

def checkPassed : Verdict := pass "Check Passed"

def ofBool (passed : Bool) (failure : String) : Verdict :=
  if passed then checkPassed else fail failure

def passed (v : Verdict) : Bool := v.outcome != .failed

def text (v : Verdict) : String := "[" ++ v.outcome.text ++ "] " ++ v.message

end Verdict

end AuditRules
