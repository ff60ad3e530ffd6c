import AuditRules.Fixture.Discovery
import AuditRules.Registry
import AuditRules.Report

namespace AuditRules

inductive AuditError where
  | fixture (e : FixtureError)
  | aborted

namespace Registry

/-- The row of a check, unless the program ends in it. -/
def checkRow (r : Registry) (fixture : String) (check : Check) : Except AuditError Row :=
  match (r.run check.id check.rule check.actual).result with
  | .error .aborted => .error .aborted
  | result => .ok (.ofResult fixture check.id check.description result)

def fixtureRows (r : Registry) (path : String) :
    Except FixtureError Fixture → Except AuditError (List Row)
  | .ok fixture => fixture.checks.mapM (r.checkRow path)
  | .error e => .ok [.ofFault path e.message]

def audit (r : Registry) (path : String) (found : Except FileFault FileTree) :
    Except AuditError (List Row) := do
  let files ← (discover path found).mapError .fixture
  let blocks ← files.mapM fun file ↦ r.fixtureRows file.1 (Fixture.read file.1 file.2)
  return blocks.flatten

end Registry

end AuditRules
