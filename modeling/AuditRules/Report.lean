import AuditRules.Json.Writer
import AuditRules.RuleError
import AuditRules.Timestamp
import AuditRules.Verdict

namespace AuditRules

/-- What became of a check; an error means that its rule could not be evaluated. -/
inductive Status where
  | passed
  | failed
  | notApplicable
  | error
  deriving DecidableEq

namespace Status

def text : Status → String
  | passed => "passed"
  | failed => "failed"
  | notApplicable => "not_applicable"
  | error => "error"

def label : Status → String
  | passed => "PASS"
  | failed => "FAIL"
  | notApplicable => "N/A"
  | error => "ERROR"

def ofOutcome : Outcome → Status
  | .passed => passed
  | .failed => failed
  | .notApplicable => notApplicable

end Status

structure Row where
  fixture : String
  id : String
  description : Option String
  status : Status
  message : String
  deriving DecidableEq

namespace Row

def ofResult (fixture id : String) (description : Option String) :
    Except RuleError Verdict → Row
  | .ok verdict => ⟨fixture, id, description, .ofOutcome verdict.outcome, verdict.message⟩
  | .error e => ⟨fixture, id, description, .error, e.report⟩

/-- The row of a fixture that has no checks because of a fault. -/
def ofFault (fixture message : String) : Row := ⟨fixture, "-", none, .error, message⟩

def toValue (r : Row) : Value :=
  .object ([("fixture", .string r.fixture), ("id", .string r.id)] ++
    (r.description.map fun d ↦ ("description", .string d)).toList ++
    [("status", .string r.status.text), ("message", .string r.message)])

/-- A line for the check, and the message below it unless the check passed. -/
def text (r : Row) : String :=
  "[" ++ r.status.label ++ "] " ++ r.id ++ " (" ++ r.fixture ++ ")" ++
    ((r.description.map (" - " ++ ·)).getD "") ++ "\n" ++
    (if r.status = .passed then "" else "      " ++ r.message ++ "\n")

end Row

structure Summary where
  total : Nat
  passed : Nat
  failed : Nat
  notApplicable : Nat
  errors : Nat
  deriving DecidableEq

namespace Summary

def empty : Summary := ⟨0, 0, 0, 0, 0⟩

def add (s : Summary) (status : Status) : Summary :=
  let s := { s with total := s.total + 1 }
  match status with
  | .passed => { s with passed := s.passed + 1 }
  | .failed => { s with failed := s.failed + 1 }
  | .notApplicable => { s with notApplicable := s.notApplicable + 1 }
  | .error => { s with errors := s.errors + 1 }

def isClean (s : Summary) : Bool := s.failed = 0 && s.errors = 0

def toValue (s : Summary) : Value :=
  .object [("total", .ofInt s.total), ("passed", .ofInt s.passed), ("failed", .ofInt s.failed),
    ("not_applicable", .ofInt s.notApplicable), ("errors", .ofInt s.errors)]

end Summary

structure Report where
  summary : Summary
  rows : List Row

namespace Report

def empty : Report := ⟨.empty, []⟩

def push (r : Report) (row : Row) : Report := ⟨r.summary.add row.status, r.rows ++ [row]⟩

def ofRows (rows : List Row) : Report := rows.foldl push empty

def toValue (time : Timestamp) (r : Report) : Value :=
  .object [("timestamp", .string (time.text ++ "Z")), ("summary", r.summary.toValue),
    ("checks", .array (r.rows.map Row.toValue))]

def json (time : Timestamp) (r : Report) : String := (r.toValue time).indented 0

def text (time : Timestamp) (r : Report) : String :=
  String.join (r.rows.map Row.text) ++
    "\nAudit Summary (" ++ time.text ++ "+00:00):\n" ++
    "Total Checks: " ++ toString r.summary.total ++ "\n" ++
    "Passed: " ++ toString r.summary.passed ++ "\n" ++
    "Not Applicable: " ++ toString r.summary.notApplicable ++ "\n" ++
    "Failed: " ++ toString r.summary.failed ++ "\n" ++
    "Errors: " ++ toString r.summary.errors ++ "\n"

end Report

end AuditRules
