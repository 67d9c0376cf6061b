import Permits.Provision.Report
import Permits.Store.Task

namespace Permits

/-- The revision of a document to be replaced, or none where there is no document or the store keeps
no versions of it. -/
def Task.currentRevision (db id : String) : Task (Except StoreError (Option String)) := do
  match ← Task.get db id with
  | .ok doc => return .ok doc.rev
  | .error e => return if e.isNotFound then .ok none else .error e

/-- Puts a body into a document over whatever revision is current. A conflict means that another
writer came between; both write the same thing, so the work is done. -/
def Task.upsert (db id : String) (body : Json) : Task (Except StoreError Installed) := do
  match ← Task.currentRevision db id with
  | .error e => return .error e
  | .ok rev =>
    match ← Task.insert db id body rev with
    | .ok _ => return .ok (if rev.isSome then .updated else .created)
    | .error e => return if e.isConflict then .ok .converged else .error e

def tombstone : Json := .object [("_deleted", .bool true)]

/-- Deletes a document, if it is there. -/
def Task.retire (db id : String) : Task (Except StoreError Retired) := do
  match ← Task.get db id with
  | .error e => return if e.isNotFound then .ok .absent else .error e
  | .ok doc =>
    match doc.rev with
    | none => return .error (.invalidResponse s!"{id} has no revision and cannot be deleted")
    | some rev =>
      match ← Task.insert db id tombstone (some rev) with
      | .ok _ => return .ok .removed
      | .error e => return if e.isConflict then .ok .converged else .error e

end Permits
