import AuditRules.Audit
import AuditRules.Limits.Document

namespace AuditRules.CommandLine

inductive Format where
  | text
  | json
  deriving DecidableEq

def Format.ofText? : String → Option Format
  | "text" => some .text
  | "json" => some .json
  | _ => none

inductive Setting where
  | config
  | format
  deriving DecidableEq

inductive Stop where
  | help
  | version
  | misuse

structure Options where
  path : String
  config : Option String
  format : Format

structure Reading where
  path : Option String
  config : Option String
  format : Option Format
  open? : Option Setting
  literal : Bool

namespace Reading

def start : Reading := ⟨none, none, none, none, false⟩

def set (r : Reading) (setting : Setting) (value : String) : Except Stop Reading :=
  let r := { r with open? := none }
  match setting with
  | .config =>
    if r.config.isSome then throw .misuse
    else if value.isEmpty then throw .misuse
    else return { r with config := some value }
  | .format =>
    if r.format.isSome then throw .misuse
    else
      match Format.ofText? value with
      | some format => return { r with format := some format }
      | none => throw .misuse

def setPath (r : Reading) (argument : String) : Except Stop Reading :=
  if r.path.isSome then throw .misuse
  else if argument.isEmpty then throw .misuse
  else return { r with path := some argument }

def long (r : Reading) (argument : String) : Except Stop Reading :=
  let (name, value) := (argument.toList.drop 2).span (· != '=')
  let attached := if value.isEmpty then none else some (String.ofList (value.drop 1))
  let flag (next : Except Stop Reading) : Except Stop Reading :=
    if attached.isSome then throw .misuse else next
  let setting (s : Setting) : Except Stop Reading :=
    match attached with
    | some value => r.set s value
    | none => return { r with open? := some s }
  match String.ofList name with
  | "config" => setting .config
  | "format" => setting .format
  | "verbose" => flag (return r)
  | "version" => flag (throw .version)
  | "help" => flag (throw .help)
  | _ => throw .misuse

/-- Options by letters; the rest of the argument may be the value of one. -/
def short : List Char → Reading → Except Stop Reading
  | [], r => return r
  | c :: cs, r =>
    let setting (s : Setting) : Except Stop Reading :=
      match cs with
      | [] => return { r with open? := some s }
      | '=' :: value => r.set s (String.ofList value)
      | value => r.set s (String.ofList value)
    match c with
    | 'c' => setting .config
    | 'f' => setting .format
    | 'v' => short cs r
    | 'V' => throw .version
    | 'h' => throw .help
    | _ => throw .misuse

def isOption (argument : String) : Bool := argument.startsWith "-" && argument != "-"

def step (r : Reading) (argument : String) : Except Stop Reading :=
  if r.literal then r.setPath argument
  else
    match r.open?, isOption argument with
    | some _, true => throw .misuse
    | some setting, false => r.set setting argument
    | none, false => r.setPath argument
    | none, true =>
      if argument = "--" then return { r with literal := true }
      else if argument.startsWith "--" then r.long argument
      else short (argument.toList.drop 1) r

def finish (r : Reading) : Except Stop Options :=
  match r.open?, r.path with
  | some _, _ => throw .misuse
  | none, none => throw .misuse
  | none, some path => return ⟨path, r.config, r.format.getD .text⟩

end Reading

def Options.parse (arguments : List String) : Except Stop Options := do
  (← arguments.foldlM Reading.step .start).finish

/-- What the program answers, apart from what it says of errors and events. -/
structure Response where
  exit : Nat
  output : String

namespace Response

def versionText : String := "audit_runner 0.1.0\n"

def helpText : String :=
  "Evaluate comparator rules against collected values\n\n" ++
  "Usage: audit_runner [OPTIONS] <PATH>\n\n" ++
  "Arguments:\n" ++
  "  <PATH>  Fixture file (.json) or directory searched recursively for fixtures\n\n" ++
  "Options:\n" ++
  "  -c, --config <CONFIG>  Engine configuration file (TOML)\n" ++
  "  -f, --format <FORMAT>  Report format [default: text] [possible values: text, json]\n" ++
  "  -v, --verbose...       Increase log verbosity (-v info, -vv debug, -vvv trace)\n" ++
  "  -h, --help             Print help\n" ++
  "  -V, --version          Print version\n"

def ofStop : Stop → Response
  | .help => ⟨0, helpText⟩
  | .version => ⟨0, versionText⟩
  | .misuse => ⟨2, ""⟩

def failure : Response := ⟨1, ""⟩

/-- An audit in which the program has ended. -/
def aborted : Response := ⟨101, ""⟩

/-- A report as the answer; the exit code says whether it is clean. -/
def ofReport (format : Format) (time : Timestamp) (report : Report) : Response :=
  let output := match format with
    | .text => report.text time
    | .json => report.json time ++ "\n"
  ⟨if report.summary.isClean then 0 else 1, output⟩

end Response

/-- Makes the audit that the options ask for, where `environment` has the values of variables, and
`find` what paths lead to. -/
def respond (engine : PatternEngine) (o : Options) (environment : String → Option String)
    (find : String → Except FileFault FileTree) (time : Timestamp) : Response :=
  let limits := (Limits.ofEnvironment environment).1
  match o.config.elim (.ok limits) fun config ↦ limits.load config (find config) with
  | .error _ => .failure
  | .ok limits =>
    match (Registry.standard engine limits).result with
    | .error _ => .failure
    | .ok r =>
      match r.audit o.path (find o.path) with
      | .error (.fixture _) => .failure
      | .error .aborted => .aborted
      | .ok rows => .ofReport o.format time (.ofRows rows)

def run (engine : PatternEngine) (arguments : List String) (environment : String → Option String)
    (find : String → Except FileFault FileTree) (time : Timestamp) : Response :=
  match Options.parse arguments with
  | .ok o => respond engine o environment find time
  | .error stop => .ofStop stop

end AuditRules.CommandLine
