import Permits.Store.Task
import Permits.Hash.Sha256

namespace Permits

/-- The kinds of call, which failures are queued for. -/
inductive Operation where
  | create
  | destroy
  | get
  | insert
  deriving DecidableEq, Repr

/-- A versioned document. A deleted one stays as a tombstone. -/
structure Stored where
  generation : Nat
  rev : String
  body : Members
  deleted : Bool

/-- The security object has no versions; all other documents do. -/
structure Database where
  security : Members := []
  documents : Keyed Stored := []

/-- A document store in memory. `faults` are failures that wait for a call of their kind; `races`
are writes that get ahead of the next insertion of a document. -/
structure MemoryStore where
  databases : Keyed Database := []
  faults : List (Operation × StoreError) := []
  races : List ((String × String) × Json) := []
  writes : Nat := 0

namespace MemoryStore

def empty : MemoryStore := {}

def failNext (s : MemoryStore) (op : Operation) (e : StoreError) : MemoryStore :=
  { s with faults := s.faults ++ [(op, e)] }

/-- Puts a competing write ahead of the next insertion of a document. -/
def raceNext (s : MemoryStore) (db id : String) (body : Json) : MemoryStore :=
  { s with races := s.races.filter (·.1 ≠ (db, id)) ++ [((db, id), body)] }

def popFault (op : Operation) :
    List (Operation × StoreError) → Option (StoreError × List (Operation × StoreError))
  | [] => none
  | (o, e) :: rest =>
    if o = op then some (e, rest) else (popFault op rest).map fun (f, rest) => (f, (o, e) :: rest)

/-- Delivers the oldest failure that waits for the kind of call, else makes the call. -/
def faulty (op : Operation) (s : MemoryStore)
    (call : MemoryStore → Except StoreError α × MemoryStore) : Except StoreError α × MemoryStore :=
  match popFault op s.faults with
  | some (e, rest) => (.error e, { s with faults := rest })
  | none => call s

def noDatabase (db : String) : StoreError := .notFound s!"Database does not exist: {db}"

def stale : StoreError := .conflict "Document update conflict."

def create (db : String) (s : MemoryStore) : Except StoreError Unit × MemoryStore :=
  if s.databases.contains db then (.error (.alreadyExists db), s)
  else (.ok (), { s with databases := s.databases.put db {} })

def destroy (db : String) (s : MemoryStore) : Except StoreError Unit × MemoryStore :=
  if s.databases.contains db then (.ok (), { s with databases := s.databases.erase db })
  else (.error (noDatabase db), s)

def Database.read (d : Database) (id : String) : Except StoreError Document :=
  if id = securityId then .ok ⟨id, none, d.security⟩
  else match d.documents.find? id with
    | some doc =>
      if doc.deleted then .error (.notFound "deleted") else .ok ⟨id, some doc.rev, doc.body⟩
    | none => .error (.notFound "missing")

def get (db id : String) (s : MemoryStore) : Except StoreError Document × MemoryStore :=
  match s.databases.find? db with
  | some d => (Database.read d id, s)
  | none => (.error (noDatabase db), s)

/-- Sixteen bytes, in hexadecimal, of a digest of the body and the mark of a deletion. -/
def contentHash (body : Members) (deleted : Bool) : String :=
  let bytes := (Json.object body).compact.toUTF8.toList ++ [if deleted then 1 else 0]
  String.ofList (Text.hexBytes ((Hash.sha256 bytes).take 16))

def revision (generation : Nat) (body : Members) (deleted : Bool) : String :=
  s!"{generation}-{contentHash body deleted}"

def deletes (body : Members) : Bool := ((Keyed.find? body "_deleted").bind Json.flag?).getD false

/-- The body without what the store itself says about a document. -/
def content (body : Members) : Members :=
  ((Keyed.erase body "_rev").erase "_id").erase "_deleted"

/-- A live document gives way to the revision it has; a tombstone to that or to none; where nothing
was, nothing can be deleted. -/
def admits (current : Option Stored) (rev : Option String) (deleting : Bool) : Bool :=
  match current with
  | some doc => if doc.deleted then rev.all (· = doc.rev) else rev = some doc.rev
  | none => rev.isNone && !deleting

def successor (current : Option Stored) (body : Members) : Stored :=
  let generation := (current.map (·.generation)).getD 0 + 1
  let deleted := deletes body
  ⟨generation, revision generation (content body) deleted, content body, deleted⟩

/-- Writes a document; the security object is replaced unasked. Answers the new revision. -/
def write (db id : String) (body : Members) (rev : Option String) (s : MemoryStore) :
    Except StoreError (Option String × MemoryStore) :=
  match s.databases.find? db with
  | none => .error (noDatabase db)
  | some d =>
    if id = securityId then
      .ok (none, { s with
        databases := s.databases.put db { d with security := body }, writes := s.writes + 1 })
    else
      let current := d.documents.find? id
      if admits current rev (deletes body) then
        let doc := successor current body
        .ok (some doc.rev, { s with
          databases := s.databases.put db { d with documents := d.documents.put id doc },
          writes := s.writes + 1 })
      else .error stale

def writeOrStay (db id : String) (body : Members) (rev : Option String) (s : MemoryStore) :
    Except StoreError (Option String) × MemoryStore :=
  match s.write db id body rev with
  | .ok (rev, s) => (.ok rev, s)
  | .error e => (.error e, s)

def liveRevision (s : MemoryStore) (db id : String) : Option String := do
  let doc ← (← s.databases.find? db).documents.find? id
  if doc.deleted then none else some doc.rev

/-- A waiting competitor writes first and is used up. -/
def insertRaced (db id : String) (body : Members) (rev : Option String) (s : MemoryStore) :
    Except StoreError (Option String) × MemoryStore :=
  match s.races.find? (·.1 = (db, id)) with
  | none => s.writeOrStay db id body rev
  | some (_, competing) =>
    let s := { s with races := s.races.filter (·.1 ≠ (db, id)) }
    match stamped none competing with
    | .error e => (.error e, s)
    | .ok rival =>
      match s.write db id rival (s.liveRevision db id) with
      | .error e => (.error e, s)
      | .ok (_, s) => s.writeOrStay db id body rev

def insert (db id : String) (body : Json) (rev : Option String) (s : MemoryStore) :
    Except StoreError (Option String) × MemoryStore :=
  match stamped none body with
  | .error e => (.error e, s)
  | .ok body => faulty .insert s (insertRaced db id body rev)

def serve : Service MemoryStore
  | .create db, s => faulty .create s (create db)
  | .destroy db, s => faulty .destroy s (destroy db)
  | .get db id, s => faulty .get s (get db id)
  | .insert db id body rev, s => insert db id body rev s

def databaseExists (s : MemoryStore) (db : String) : Bool := s.databases.contains db

def document (s : MemoryStore) (db id : String) : Option Members := do
  let d ← s.databases.find? db
  if id = securityId then some d.security
  else
    let doc ← d.documents.find? id
    if doc.deleted then none else some doc.body

/-- The revision of a document or of its tombstone. -/
def revisionOf (s : MemoryStore) (db id : String) : Option String := do
  let doc ← (← s.databases.find? db).documents.find? id
  return doc.rev

def documentCount (s : MemoryStore) (db : String) : Nat :=
  match s.databases.find? db with
  | some d => (d.documents.filter (!·.2.deleted)).length
  | none => 0

end MemoryStore

end Permits
