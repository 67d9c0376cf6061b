import Permits.Data.Decode
import Permits.Json.Reader

namespace Permits

/-- Who may do one kind of operation: the owner alone, the owner and the users of a list, or anyone
through the public identity. -/
inductive Scope where
  | owner
  | users
  | anyone
  deriving DecidableEq, Repr

namespace Scope

def word : Scope → String
  | owner => "private"
  | users => "users"
  | anyone => "public"

def ofWord? : String → Option Scope
  | "private" => some owner
  | "users" => some users
  | "public" => some anyone
  | _ => none

def ofDatum? (d : Datum) : Option Scope :=
  (d.choice? Datum.jsonFormat ["private", "users", "public"]).bind ofWord?

end Scope

/-- Who may read, write and delete in one database. The lists name principals by DID. -/
structure Policy where
  read : Scope := .owner
  write : Scope := .owner
  readList : List String := []
  writeList : List String := []
  deleteList : List String := []
  deriving DecidableEq, Repr

namespace Policy

/-- The owner alone; no policy at all means the same. -/
def ownerOnly : Policy := {}

def json (p : Policy) : Json :=
  .object [("read", .string p.read.word), ("write", .string p.write.word),
    ("readList", .texts p.readList), ("writeList", .texts p.writeList),
    ("deleteList", .texts p.deleteList)]

/-- Every field may be left out. -/
def ofDatum? (d : Datum) : Option Policy := do
  let look ← d.fields? Datum.jsonFormat ["read", "write", "readList", "writeList", "deleteList"]
  let read ← Datum.field look "read" .owner Scope.ofDatum?
  let write ← Datum.field look "write" .owner Scope.ofDatum?
  let readList ← Datum.field look "readList" [] Datum.texts?
  let writeList ← Datum.field look "writeList" [] Datum.texts?
  let deleteList ← Datum.field look "deleteList" [] Datum.texts?
  return { read, write, readList, writeList, deleteList }

def parse? (text : String) : Option Policy := (Json.read? text).bind ofDatum?

end Policy

/-- What a call on a database may ask for beyond its name. -/
structure DatabaseOptions where
  permissions : Option Policy := none
  deriving DecidableEq, Repr

namespace DatabaseOptions

def json (o : DatabaseOptions) : Json :=
  .object [("permissions", (o.permissions.map Policy.json).getD .null)]

def ofDatum? (d : Datum) : Option DatabaseOptions := do
  let look ← d.fields? Datum.jsonFormat ["permissions"]
  let permissions ← Datum.field look "permissions" none fun
    | .null => some none
    | d => (Policy.ofDatum? d).map some
  return { permissions }

def parse? (text : String) : Option DatabaseOptions := (Json.read? text).bind ofDatum?

end DatabaseOptions

end Permits
