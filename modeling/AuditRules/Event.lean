import AuditRules.RuleError

namespace AuditRules

inductive Level where
  | error
  | warn
  | info
  | debug
  | trace
  deriving DecidableEq

namespace Level

def severity : Level → Nat
  | error => 1
  | warn => 2
  | info => 3
  | debug => 4
  | trace => 5

def text : Level → String
  | error => "ERROR"
  | warn => "WARN"
  | info => "INFO"
  | debug => "DEBUG"
  | trace => "TRACE"

def all : List Level := [error, warn, info, debug, trace]

end Level

structure Event where
  level : Level
  code : Option String
  message : String
  context : List (String × String)
  deriving DecidableEq

namespace Event

def target : String := "audit_comparators"

def contextText (context : List (String × String)) : String :=
  String.join (context.map fun entry ↦ " " ++ entry.1 ++ "=" ++ entry.2)

def line (e : Event) : String :=
  (match e.code with
    | some code => "[" ++ code ++ "] "
    | none => "") ++ e.message ++ contextText e.context

def shown (limit : Option Level) (e : Event) : Bool :=
  limit.any fun l ↦ e.level.severity ≤ l.severity

def debug (message : String) (context : List (String × String)) : Event :=
  ⟨.debug, none, message, context⟩

end Event

end AuditRules
