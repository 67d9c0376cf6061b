namespace Permits

/-- What is counted while permissions are provisioned. -/
inductive Counter where
  | applied
  | converged
  | retired
  | failed
  | created
  | destroyed
  deriving DecidableEq, Repr

namespace Counter

def all : List Counter := [applied, converged, retired, failed, created, destroyed]

def name : Counter → String
  | applied => "docguard.artifacts.applied"
  | converged => "docguard.artifacts.converged"
  | retired => "docguard.artifacts.retired"
  | failed => "docguard.permissions.failed"
  | created => "docguard.databases.created"
  | destroyed => "docguard.databases.destroyed"

def description : Counter → String
  | applied => "Permission documents created or updated"
  | converged => "Permission writes that lost a revision race to a concurrent writer"
  | retired => "Stale delete-guards removed"
  | failed => "Permission passes that stopped on a store failure"
  | created => "Databases created by provision"
  | destroyed => "Databases destroyed by deprovision"

/-- How often each counter occurs, without those that never do. -/
def totals (counted : List Counter) : List (Counter × Nat) :=
  (all.map fun k => (k, counted.count k)).filter (·.2 ≠ 0)

end Counter

end Permits
