import Permits.Policy.Basic
import Permits.Policy.Did

namespace Permits

structure UserSets where
  owner : Identity
  writeScope : Scope
  writers : IdentitySet
  readers : IdentitySet
  deleters : IdentitySet
  members : IdentitySet

namespace UserSets

/-- Anyone may write, so deletions need a guard of their own. -/
def needsDeleteGuard (u : UserSets) : Bool := u.writeScope = .anyone

def json (u : UserSets) : Json :=
  .object [("owner", u.owner.json), ("writeScope", .string u.writeScope.word),
    ("writeUsers", u.writers.json), ("readUsers", u.readers.json),
    ("deleteUsers", u.deleters.json), ("members", u.members.json)]

end UserSets

/-- Translates a list; the first unusable name fails the call. An empty list is not looked up. -/
def translateChecked (t : Translator) (dids : List String) (space : String) :
    Except PolicyError (List Identity) :=
  if dids.isEmpty then .ok []
  else do
    let is ← t dids space
    match is.find? (!·.isWellFormed) with
    | some bad => throw (.translation s!"translator produced unusable identity {Text.quoted bad.name}")
    | none => return is

/-- The owner with the users that the scope of writing adds, and those that may delete. -/
def resolveWrite (owner shared : Identity) (space : String) (p : Policy) (t : Translator) :
    Except PolicyError (IdentitySet × IdentitySet) :=
  let owners := IdentitySet.singleton owner
  match p.write with
  | .owner => return (owners, owners)
  | .users => do
    let writers := owners.extend (← translateChecked t p.writeList space)
    let deleters := owners.extend (← translateChecked t p.deleteList space)
    return (writers, deleters)
  | .anyone => do
    let deleters := owners.extend (← translateChecked t p.deleteList space)
    return (owners.insert shared, deleters)

def resolveRead (owner shared : Identity) (space : String) (p : Policy) (t : Translator) :
    Except PolicyError IdentitySet :=
  let owners := IdentitySet.singleton owner
  match p.read with
  | .owner => return owners
  | .users => return owners.extend (← translateChecked t p.readList space)
  | .anyone => return owners.insert shared

/-- The user sets of a policy for an owner within an application. `shared` is the identity that
stands for anyone. Only the lists that a scope calls for are translated. -/
def resolve (owner : Identity) (space : String) (policy : Option Policy) (t : Translator)
    (shared : Identity) : Except PolicyError UserSets := do
  if !owner.isWellFormed then throw (.invalidOwner owner.name)
  if space = "" then throw .emptyNamespace
  if !shared.isWellFormed then throw (.invalidPublicIdentity shared.name)
  let p := policy.getD .ownerOnly
  let (writers, deleters) ← resolveWrite owner shared space p t
  let readers ← resolveRead owner shared space p t
  return { owner, writeScope := p.write, writers, readers, deleters,
           members := readers.union writers }

end Permits
