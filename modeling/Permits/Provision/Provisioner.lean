import Permits.Provision.Pass
import Permits.Provision.Settings

namespace Permits

inductive ProvisionError where
  /-- Nothing was written. -/
  | policy (cause : PolicyError)
  /-- The database could not be created or destroyed. -/
  | store (cause : StoreError)
  /-- A permission document failed to apply and the failure policy is strict. -/
  | notApplied (database documentId : String) (cause : StoreError)
  deriving DecidableEq, Repr

def ProvisionError.message : ProvisionError → String
  | policy cause => s!"Policy error: {cause.message}"
  | store cause => s!"Store error: {cause.message}"
  | notApplied database documentId cause =>
    s!"Permissions not applied to {database} ({documentId}): {cause.message}"

def FailurePolicy.enforce (policy : FailurePolicy) (r : PermissionReport) :
    Except ProvisionError Unit :=
  match policy, r.firstFailure? with
  | .strict, some w => .error (.notApplied r.database w.documentId w.error)
  | _, _ => .ok ()

/-- Keeps the permission documents of databases. It holds no state of its own. -/
structure Provisioner where
  translator : Translator
  settings : ProvisionSettings

namespace Provisioner

/-- The artifacts for a database, without touching the store. -/
def compile (p : Provisioner) (owner app : String) (options : DatabaseOptions) :
    Except PolicyError Artifacts :=
  (resolve ⟨owner⟩ app options.permissions p.translator p.settings.publicUser).map Artifacts.compile

def ensureDatabase (db : String) : Task (Except StoreError DatabaseStatus) := do
  match ← Task.create db with
  | .ok () =>
    Task.counting .created
    return .ok .created
  | .error e => return if e.isAlreadyExists then .ok .alreadyExisted else .error e

def provision (p : Provisioner) (owner db app : String) (options : DatabaseOptions) :
    Task (Except ProvisionError ProvisionReport) :=
  match p.compile owner app options with
  | .error e => return .error (.policy e)
  | .ok a => do
    match ← ensureDatabase db with
    | .error e => return .error (.store e)
    | .ok databaseStatus =>
      let permissions ← applyPermissions db a
      return (p.settings.onProvision.enforce permissions).map fun _ => { databaseStatus, permissions }

def update (p : Provisioner) (owner db app : String) (options : DatabaseOptions) :
    Task (Except ProvisionError PermissionReport) :=
  match p.compile owner app options with
  | .error e => return .error (.policy e)
  | .ok a => do
    let permissions ← applyPermissions db a
    return (p.settings.onUpdate.enforce permissions).map fun _ => permissions

/-- Destroys a database; that it is missing is no error. -/
def deprovision (db : String) : Task (Except ProvisionError Deprovisioned) := do
  match ← Task.destroy db with
  | .ok () =>
    Task.counting .destroyed
    return .ok .destroyed
  | .error e => return if e.isNotFound then .ok .alreadyAbsent else .error (.store e)

def described (p : Provisioner) : String :=
  "Provisioner \x7b settings: " ++ p.settings.described ++ ", .. \x7d"

end Provisioner

end Permits
