import Permits.Guard.Rule
import Permits.Policy.Resolve
import Permits.Store.Document

namespace Permits

structure SecurityGroup where
  names : List String
  roles : List String := []
  deriving DecidableEq, Repr

/-- The security object of a database: admins may change it, members may read. -/
structure SecurityDescriptor where
  admins : SecurityGroup
  members : SecurityGroup
  deriving DecidableEq, Repr

namespace SecurityGroup

def json (g : SecurityGroup) : Json :=
  .object [("names", .texts g.names), ("roles", .texts g.roles)]

def ofDatum? (d : Datum) : Option SecurityGroup := do
  let look ← d.fields? Datum.jsonFormat ["names", "roles"]
  let names ← (← look "names").texts?
  let roles ← Datum.field look "roles" [] Datum.texts?
  return { names, roles }

end SecurityGroup

namespace SecurityDescriptor

/-- The owner administers, the members read; nobody has a role. -/
def ofOwner (owner : String) (members : IdentitySet) : SecurityDescriptor :=
  { admins := { names := [owner] }, members := { names := members.names } }

def body (d : SecurityDescriptor) : Members :=
  [("admins", d.admins.json), ("members", d.members.json)]

def json (d : SecurityDescriptor) : Json := .object d.body

def ofDatum? (d : Datum) : Option SecurityDescriptor := do
  let look ← d.fields? Datum.jsonFormat ["admins", "members"]
  let admins ← SecurityGroup.ofDatum? (← look "admins")
  let members ← SecurityGroup.ofDatum? (← look "members")
  return { admins, members }

def parse? (text : String) : Option SecurityDescriptor := (Json.read? text).bind ofDatum?

end SecurityDescriptor

def writeGuardId : String := "_design/only_permit_write_users"

def deleteGuardId : String := "_design/disable_public_delete"

/-- All that the store needs to enforce a policy. -/
structure Artifacts where
  descriptor : SecurityDescriptor
  writeGuard : GuardRule
  deleteGuard : Option GuardRule
  deriving DecidableEq

namespace Artifacts

def compile (u : UserSets) : Artifacts where
  descriptor := .ofOwner u.owner.name u.members
  writeGuard := ⟨.write, u.writers⟩
  deleteGuard := if u.needsDeleteGuard then some ⟨.delete, u.deleters⟩ else none

/-- The rules that the store applies to a change, all of which must allow it. -/
def guards (a : Artifacts) : List GuardRule := a.writeGuard :: a.deleteGuard.toList

/-- The documents to install, in this order. -/
def documents (a : Artifacts) : List (String × Members) :=
  [(securityId, a.descriptor.body), (writeGuardId, a.writeGuard.body)] ++
    (a.deleteGuard.map fun r => (deleteGuardId, r.body)).toList

end Artifacts

end Permits
