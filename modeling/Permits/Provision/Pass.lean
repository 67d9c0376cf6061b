import Permits.Guard.Artifacts
import Permits.Provision.Install

namespace Permits

/-- A document of a pass: a body to install, or none for a document to retire. -/
abbrev Step := String × Option Members

/-- The documents of a pass in order. A delete guard that is not wanted is retired last. -/
def Artifacts.steps (a : Artifacts) : List Step :=
  (a.documents.map fun (id, body) => (id, some body)) ++
    if a.deleteGuard.isNone then [(deleteGuardId, none)] else []

def performStep (db : String) : Step → Task (Except StoreError Status)
  | (id, some body) => return (← Task.upsert db id (.object body)).map Installed.status
  | (id, none) => return (← Task.retire db id).map Retired.status

def countStatus (status : Status) : Task Unit :=
  match status.counter? with
  | some k => Task.counting k
  | none => pure ()

/-- Walks the documents in order; after a failure the rest is skipped. -/
def performSteps (db : String) : List Step → PermissionReport → Task PermissionReport
  | [], report => return report
  | (id, body) :: rest, report => do
    match ← performStep db (id, body) with
    | .ok status =>
      countStatus status
      performSteps db rest (report.record id status)
    | .error e =>
      countStatus .failed
      return rest.foldl (fun r s => r.record s.1 .skipped) (report.recordFailure id e)

def applyPermissions (db : String) (a : Artifacts) : Task PermissionReport :=
  performSteps db a.steps { database := db }

end Permits
