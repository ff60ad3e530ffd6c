import AuditRules.CommandLine
import AuditRules.Pattern.Parser
import Std.Time.DateTime.Timestamp

open AuditRules

def faultOf : IO.Error → FileFault
  | .noFileOrDirectory .. => .missing
  | .permissionDenied .. => .denied
  | .inappropriateType .. => .notDirectory
  | _ => .missing

def loadFile (path : String) : IO FileTree := do
  try
    return .ofBytes (← IO.FS.readBinFile path)
  catch e => return .file (.error (faultOf e))

partial def loadDirectory (path : String) : IO FileTree := do
  let place := (← IO.currentDir) / path
  let nodes ← (← place.readDir).toList.filterMapM fun entry ↦ do
    match (← entry.path.symlinkMetadata).type with
    | .dir => return some (entry.fileName, ← loadDirectory entry.path.toString)
    | .file => return some (entry.fileName, ← loadFile entry.path.toString)
    | _ => return none
  return .directory nodes

def loadPath (path : String) : IO (Except FileFault FileTree) := do
  try
    match (← ((← IO.currentDir) / path).metadata).type with
    | .dir => return .ok (← loadDirectory path)
    | _ => return .ok (← loadFile path)
  catch e => return .error (faultOf e)

def loadEnvironment : IO (String → Option String) := do
  let names := ["AUDIT_MAX_NESTING_DEPTH", "AUDIT_MAX_RENDERED_VALUE_LENGTH"]
  let values ← names.mapM fun name ↦ do return (name, ← IO.getEnv name)
  return fun name ↦ (values.lookup name).join

def now : IO Timestamp := do
  let t ← Std.Time.Timestamp.now
  let nanoseconds := t.toNanosecondsSinceUnixEpoch.val.toNat
  return ⟨nanoseconds / 1000000000, nanoseconds % 1000000000⟩

def main (arguments : List String) : IO UInt32 := do
  let answer ← match CommandLine.Options.parse arguments with
    | .error stop => pure (CommandLine.Response.ofStop stop)
    | .ok o => do
      let found ← (o.path :: o.config.toList).mapM fun path ↦ do return (path, ← loadPath path)
      let find (path : String) := (found.lookup path).getD (.error .missing)
      pure (CommandLine.respond Pattern.engine o (← loadEnvironment) find (← now))
  IO.print answer.output
  return answer.exit.toUInt32
