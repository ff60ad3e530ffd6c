import AuditRules.StableSort

namespace AuditRules

inductive FileFault where
  | missing
  | denied
  | notDirectory
  | directory
  | nameTooLong
  | nameWithNul
  | notText
  deriving DecidableEq

def FileFault.message : FileFault → String
  | missing => "No such file or directory (os error 2)"
  | denied => "Permission denied (os error 13)"
  | notDirectory => "Not a directory (os error 20)"
  | directory => "Is a directory (os error 21)"
  | nameTooLong => "File name too long (os error 36)"
  | nameWithNul => "file name contained an unexpected NUL byte"
  | notText => "stream did not contain valid UTF-8"

inductive FileTree where
  | file (content : Except FileFault String)
  | directory (entries : List (String × FileTree))

namespace FileTree

def ofBytes (bytes : ByteArray) : FileTree :=
  .file (match String.fromUTF8? bytes with
    | some text => .ok text
    | none => .error .notText)

def text : FileTree → Except FileFault String
  | file content => content
  | directory _ => .error .directory

/-- Changes what stands at the end of a path of names, and makes the directories on it. -/
def alter (change : Option FileTree → FileTree) : List String → Option FileTree → FileTree
  | [], t => change t
  | name :: names, t =>
    let entries := match t with
      | some (directory entries) => entries
      | _ => []
    directory (entries.filter (·.1 != name) ++ [(name, alter change names (entries.lookup name))])

/-- What a path of names leads to from `here`, where `above` are the directories around it from the
inside out. Around the outermost one there are only empty directories. -/
def follow : List String → FileTree → List FileTree → Except FileFault FileTree
  | [], here, _ => .ok here
  | _ :: _, file _, _ => .error .notDirectory
  | name :: names, here@(directory entries), above =>
    if name = "" ∨ name = "." then follow names here above
    else if name = ".." then follow names (above.head?.getD (directory [])) above.tail
    else if 255 < name.utf8ByteSize then .error .nameTooLong
    else
      match entries.lookup name with
      | some next => follow names next (here :: above)
      | none => .error .missing

/-- What a path leads to from the root of a tree. A path that starts with a slash leads outside. -/
def find (root : FileTree) (path : String) : Except FileFault FileTree :=
  if path = "" then .error .missing
  else if path.toList.contains '\x00' then .error .nameWithNul
  else if 4096 ≤ path.utf8ByteSize then .error .nameTooLong
  else follow (path.splitOn "/") (if path.startsWith "/" then directory [] else root) []

end FileTree

end AuditRules
