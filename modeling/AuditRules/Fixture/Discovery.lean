import AuditRules.Fixture

namespace AuditRules

/-- Fixtures have names that end in `.json` with something before it. -/
def isFixtureName (name : String) : Bool :=
  ".json".toList.isSuffixOf name.toList && 5 < name.length

namespace FileTree

mutual

def fixtures : FileTree → List (List String × Except FileFault String)
  | file _ => []
  | directory entries =>
    (insertionSort (fun a b ↦ decide (a.1 < b.1)) (entryFixtures entries)).flatMap (·.2)

def entryFixtures :
    List (String × FileTree) → List (String × List (List String × Except FileFault String))
  | [] => []
  | (name, file content) :: entries =>
    (name, if isFixtureName name then [([name], content)] else []) :: entryFixtures entries
  | (name, directory below) :: entries =>
    (name, (directory below).fixtures.map fun found ↦ (name :: found.1, found.2)) ::
      entryFixtures entries

end

end FileTree

def joinPath (path name : String) : String :=
  if path.endsWith "/" then path ++ name else path ++ "/" ++ name

def discover (path : String) :
    Except FileFault FileTree → Except FixtureError (List (String × Except FileFault String))
  | .error _ => .error (.noSuchPath path)
  | .ok (.file content) => .ok [(path, content)]
  | .ok tree => .ok (tree.fixtures.map fun found ↦ (found.1.foldl joinPath path, found.2))

end AuditRules
