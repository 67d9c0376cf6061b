import Permits.Store.Counter
import Permits.Store.Error
import Permits.Json.Value

namespace Permits

/-- How a document came to hold the intended body. -/
inductive Installed where
  /-- Written where no revision was known. -/
  | created
  /-- Written over the revision that was read. -/
  | updated
  /-- Another writer was faster. -/
  | converged
  deriving DecidableEq, Repr

/-- How a document that is not wanted went away. -/
inductive Retired where
  | removed
  | absent
  | converged
  deriving DecidableEq, Repr

/-- What became of one document of a pass. -/
inductive Status where
  | created
  | updated
  | converged
  | removed
  | absent
  | failed
  /-- Not tried, because an earlier document failed. -/
  | skipped
  deriving DecidableEq, Repr

namespace Installed

def word : Installed → String
  | created => "created"
  | updated => "updated"
  | converged => "converged"

def status : Installed → Status
  | created => .created
  | updated => .updated
  | converged => .converged

end Installed

namespace Retired

def word : Retired → String
  | removed => "removed"
  | absent => "absent"
  | converged => "converged"

def status : Retired → Status
  | removed => .removed
  | absent => .absent
  | converged => .converged

end Retired

namespace Status

def word : Status → String
  | created => "created"
  | updated => "updated"
  | converged => "converged"
  | removed => "removed"
  | absent => "absent"
  | failed => "failed"
  | skipped => "skipped"

/-- What is counted when a document ends so. -/
def counter? : Status → Option Counter
  | created | updated => some .applied
  | converged => some .converged
  | removed => some .retired
  | failed => some .failed
  | absent | skipped => none

end Status

structure ArtifactReport where
  documentId : String
  status : Status
  deriving DecidableEq, Repr

/-- A document that could not be brought to its intended state. -/
structure Warning where
  documentId : String
  error : StoreError
  deriving DecidableEq, Repr

/-- What one pass over the permission documents of a database did. -/
structure PermissionReport where
  database : String
  artifacts : List ArtifactReport := []
  warnings : List Warning := []
  deriving DecidableEq, Repr

namespace PermissionReport

def record (r : PermissionReport) (id : String) (status : Status) : PermissionReport :=
  { r with artifacts := r.artifacts ++ [⟨id, status⟩] }

def recordFailure (r : PermissionReport) (id : String) (e : StoreError) : PermissionReport :=
  { r.record id .failed with warnings := r.warnings ++ [⟨id, e⟩] }

/-- Every document reached its intended state. -/
def isComplete (r : PermissionReport) : Bool := r.warnings.isEmpty

def statusOf? (r : PermissionReport) (id : String) : Option Status :=
  (r.artifacts.find? (·.documentId = id)).map (·.status)

def firstFailure? (r : PermissionReport) : Option Warning := r.warnings.head?

def json (r : PermissionReport) : Json :=
  .object [("database", .string r.database),
    ("artifacts", .array (r.artifacts.map fun a =>
      .object [("document_id", .string a.documentId), ("status", .string a.status.word)])),
    ("warnings", .array (r.warnings.map fun w =>
      .object [("document_id", .string w.documentId), ("message", .string w.error.message)]))]

end PermissionReport

inductive DatabaseStatus where
  | created
  | alreadyExisted
  deriving DecidableEq, Repr

def DatabaseStatus.word : DatabaseStatus → String
  | created => "created"
  | alreadyExisted => "already_existed"

structure ProvisionReport where
  databaseStatus : DatabaseStatus
  permissions : PermissionReport
  deriving DecidableEq, Repr

def ProvisionReport.json (r : ProvisionReport) : Json :=
  .object [("database_status", .string r.databaseStatus.word), ("permissions", r.permissions.json)]

inductive Deprovisioned where
  | destroyed
  | alreadyAbsent
  deriving DecidableEq, Repr

def Deprovisioned.word : Deprovisioned → String
  | destroyed => "destroyed"
  | alreadyAbsent => "already_absent"

end Permits
