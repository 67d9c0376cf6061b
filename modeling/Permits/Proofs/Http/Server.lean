import Permits.Proofs.Http.Discipline
import Permits.Proofs.Json.RoundTrip
import Permits.Proofs.Url.Segments
import Permits.Store.Memory

namespace Permits.Http

namespace Server

def json (status : Nat) (members : Members) : Reply :=
  .answered status (.text (Json.object members).compact)

/-- What a refusal says: a name for the error, and a reason. -/
def explained (error reason : String) : Members :=
  [("error", .string error), ("reason", .string reason)]

def refuse (status : Nat) (error reason : String) : Reply := json status (explained error reason)

def refusal : StoreError → Reply
  | .alreadyExists reason => refuse 412 "file_exists" reason
  | .notFound reason => refuse 404 "not_found" reason
  | .conflict reason => refuse 409 "conflict" reason
  | .http status error reason =>
    refuse (if 100 ≤ status ∧ status < 1000 then status else 500) error reason
  | e => refuse 500 "unknown_error" e.message

def sent (doc : Document) : Members :=
  match doc.rev with
  | none => doc.body
  | some rev => (doc.body.put "_id" (.string doc.id)).put "_rev" (.string rev)

/-- The answer of the store to a call as a reply. -/
def reply : (c : StoreCall) → c.Answer → Reply
  | .create _, .ok _ => json 201 [("ok", .bool true)]
  | .destroy _, .ok _ => json 200 [("ok", .bool true)]
  | .get _ _, .ok doc => json 200 (sent doc)
  | .insert _ id _ _, .ok (some rev) =>
    json 201 [("id", .string id), ("ok", .bool true), ("rev", .string rev)]
  | .insert _ _ _ _, .ok none => json 200 [("ok", .bool true)]
  | .create _, .error e => refusal e
  | .destroy _, .error e => refusal e
  | .get _ _, .error e => refusal e
  | .insert _ _ _ _, .error e => refusal e

def segments? (mount path : List (List Char)) : Option (List String) :=
  if mount.isPrefixOf path then (path.drop mount.length).mapM Url.segmentText? else none

/-- The call that a request asks for: the first segment names a database, all others together a
document. The revision to be replaced comes with the body. -/
def call? (mount : List (List Char)) (r : Request) : Option StoreCall := do
  match r.method, ← segments? mount r.url.path with
  | .put, [db] => return .create db
  | .delete, [db] => return .destroy db
  | .get, db :: s :: rest => return .get db ("/".intercalate (s :: rest))
  | .put, db :: s :: rest =>
    match Json.parse? (← r.body) with
    | some (.object ms) =>
      return .insert db ("/".intercalate (s :: rest)) (.object (Keyed.erase ms "_rev"))
        ((Keyed.find? ms "_rev").bind Json.text?)
    | _ => none
  | _, _ => none

/-- Answers a request out of the store, if it asks for something and comes with a name. -/
def answer (mount : List (List Char)) (r : Request) (s : MemoryStore) : Reply × MemoryStore :=
  if "Basic ".toList.isPrefixOf r.authorization.toList then
    match call? mount r with
    | some c => (reply c (s.serve c).1, (s.serve c).2)
    | none => (refuse 400 "bad_request" "", s)
  else (refuse 401 "unauthorized" "Name or password is incorrect.", s)

end Server

section Addresses

variable {c : Client} {db id : String}

/-- The segments that a document is addressed by below its database. -/
def Client.idSegments (id : String) : List String :=
  match Client.designName? id with
  | some name => ["_design", name]
  | none => [id]

def Addressable (id : String) : Prop := ∀ s ∈ Client.idSegments id, Url.Ordinary s

theorem ne_empty_of_addressable (h : Addressable id) : id ≠ "" := by
  rintro rfl
  exact (h "" (by decide)).nonempty rfl

theorem eq_of_designName? {name : String} (h : Client.designName? id = some name) :
    id = "_design/" ++ name := by
  unfold Client.designName? at h
  dsimp only at h
  split at h
  · next hdesign =>
    have hstarts := List.isPrefixOf_iff_prefix.1 (Bool.and_eq_true_iff.1 hdesign).1
    have hsplit := List.prefix_iff_eq_append.1 hstarts
    have hname := congrArg String.toList (Option.some.inj h)
    rw [String.toList_ofList] at hname
    apply String.toList_inj.1
    rw [String.toList_append, ← hname, hsplit]
  · cases h

/-- The segments of a document tell its name. -/
theorem intercalate_idSegments (id : String) : "/".intercalate (Client.idSegments id) = id := by
  unfold Client.idSegments
  cases hname : Client.designName? id with
  | none => rfl
  | some name => exact (eq_of_designName? hname).symm

theorem exists_idSegments_eq_cons (id : String) : ∃ s rest, Client.idSegments id = s :: rest := by
  unfold Client.idSegments
  cases Client.designName? id <;> exact ⟨_, _, rfl⟩

theorem databaseUrl_eq (h : Url.Ordinary db) : c.databaseUrl db = .ok (c.base.below [db]) :=
  if_neg h.nonempty

theorem documentUrl_of_ne (hdb : db ≠ "") (hid : id ≠ "") :
    c.documentUrl db id = .ok (c.base.below (db :: Client.idSegments id)) := by
  rw [Client.documentUrl, if_neg (not_or.2 ⟨hdb, hid⟩), Client.idSegments]
  cases Client.designName? id <;> rfl

theorem documentUrl_eq (hdb : Url.Ordinary db) (hid : Addressable id) :
    c.documentUrl db id = .ok (c.base.below (db :: Client.idSegments id)) :=
  documentUrl_of_ne hdb.nonempty (ne_empty_of_addressable hid)

theorem mapM_eq_some_iff {α β : Type} {f : α → Option β} {xs : List α} {ys : List β} :
    xs.mapM f = some ys ↔ xs.map f = ys.map some := by
  induction xs generalizing ys with
  | nil => cases ys <;> simp
  | cons x rest ih =>
    cases ys with
    | nil => simp [List.mapM_cons, Option.bind_eq_some_iff]
    | cons y ys => simp [List.mapM_cons, Option.bind_eq_some_iff, ← ih]

theorem mapM_segmentText?_encode (special : Bool) (segments : List String) :
    (segments.map fun s => Url.encode (Url.inSegment special) s.toList).mapM Url.segmentText? =
      some segments := by
  simp [mapM_eq_some_iff, Url.segmentText?_encode]

/-- A server at the URL of a client reads the segments that the client puts below it. -/
theorem segments?_below (u : Url) {s : String} {segments : List String}
    (h : ∀ t ∈ s :: segments, Url.Ordinary t) :
    Server.segments? u.mount (u.below (s :: segments)).path = some (s :: segments) := by
  have hpath := Url.path_below u h
  have hmount : u.mount.isPrefixOf (u.below (s :: segments)).path = true := by
    rw [hpath]
    exact List.isPrefixOf_iff_prefix.2 (List.prefix_append _ _)
  rw [Server.segments?, if_pos hmount, hpath, List.drop_left]
  exact mapM_segmentText?_encode _ _

end Addresses

section Members

variable {ms : Members} {rev : Option String}

/-- Members that are read back from how they are sent. -/
structure Legible (ms : Members) : Prop where
  numberFree : ∀ e ∈ ms, e.2.numberFree = true
  increasing : Keyed.Increasing ms
  shallow : ∀ e ∈ ms, Json.Regular 126 e.2

theorem Legible.put_string (h : Legible ms) (key value : String) :
    Legible (ms.put key (.string value)) := by
  refine ⟨fun e he => ?_, h.increasing.put key _, fun e he => ?_⟩
  · rcases Keyed.mem_of_mem_put he with rfl | he
    · rfl
    · exact h.numberFree e he
  · rcases Keyed.mem_of_mem_put he with rfl | he
    · exact Json.regular_string _ _
    · exact h.shallow e he

theorem Legible.parse?_compact (h : Legible ms) :
    Json.parse? (Json.object ms).compact = some (.object ms) :=
  Json.parse?_compact (Json.membersNumberFree_iff.2 h.numberFree)
    ⟨h.increasing, Json.regularMembers_iff.2 h.shallow⟩

/-- Members that leave the name of the revision to who sends them. -/
structure Sendable (ms : Members) : Prop extends Legible ms where
  unversioned : Keyed.find? ms "_rev" = none

end Members

section Requests

variable {c : Client} {db id : String}

end Requests

def Told : StoreError → Prop
  | .alreadyExists _ => True
  | .notFound _ => True
  | .conflict _ => True
  | _ => False

section Replies

variable {ms : Members}

theorem Legible.sent {doc : Document} (h : Legible doc.body) : Legible (Server.sent doc) := by
  obtain ⟨id, _ | rev, body⟩ := doc
  · exact h
  · exact (h.put_string "_id" id).put_string "_rev" rev

theorem find?_sent {doc : Document}
    (h : doc.rev = none → Keyed.find? doc.body "_rev" = none) :
    Keyed.find? (Server.sent doc) "_rev" = doc.rev.map .string := by
  obtain ⟨id, _ | rev, body⟩ := doc
  · exact h rfl
  · exact Keyed.find?_put_self _ _ _

/-- The revision of a document is read out of what is sent of it, whatever names the body has, if
the store keeps a revision. -/
theorem Legible.basis?_sent {doc : Document} (h : Legible doc.body)
    (hrev : doc.rev = none → Keyed.find? doc.body "_rev" = none) :
    (Server.json 200 (Server.sent doc)).basis? = some doc.rev := by
  have hjson : (Body.text (Json.object (Server.sent doc)).compact).json? =
      some (.object (Server.sent doc)) := h.sent.parse?_compact
  simp only [Server.json, Reply.basis?, hjson, find?_sent hrev]
  cases doc.rev <;> rfl

end Replies

end Permits.Http
