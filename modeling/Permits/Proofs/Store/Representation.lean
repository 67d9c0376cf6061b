import Permits.Proofs.Data.Increasing
import Permits.Proofs.Store.Reachable

namespace Permits

namespace MemoryStore

/-- What the store itself says about a document, and so keeps out of its body. -/
def metadata : List String := ["_id", "_rev", "_deleted"]

/-- What holds of a document under the name that a database keeps it by. -/
structure Kept (id : String) (doc : Stored) : Prop where
  versioned : id ≠ securityId
  written : 1 ≤ doc.generation
  rev : doc.rev = revision doc.generation doc.body doc.deleted
  bare : ∀ key ∈ metadata, Keyed.contains doc.body key = false

/-- Every name stands once, and every document is as it has to be. -/
structure Represented (m : Keyed Database) : Prop where
  names : m.Increasing
  documents : ∀ db d, (db, d) ∈ m → d.documents.Increasing
  kept : ∀ db d, (db, d) ∈ m → ∀ id doc, (id, doc) ∈ d.documents → Kept id doc

theorem contains_content (body : Members) {key : String} (h : key ∈ metadata) :
    Keyed.contains (content body) key = false := by
  simp only [metadata, List.mem_cons, List.not_mem_nil, or_false] at h
  rw [Keyed.contains, content, Option.isSome_eq_false_iff, Option.isNone_iff_eq_none]
  rcases h with rfl | rfl | rfl
  · rw [Keyed.find?_erase_of_ne _ (by decide), Keyed.find?_erase_self]
  · rw [Keyed.find?_erase_of_ne _ (by decide), Keyed.find?_erase_of_ne _ (by decide),
      Keyed.find?_erase_self]
  · rw [Keyed.find?_erase_self]

/-- Whatever was there before and whatever the caller sends, deletions and names of the store's own
among it. -/
theorem kept_successor {id : String} (h : id ≠ securityId) (current : Option Stored)
    (body : Members) : Kept id (successor current body) where
  versioned := h
  written := Nat.succ_le_succ (Nat.zero_le _)
  rev := rfl
  bare _ hkey := contains_content body hkey

theorem represented_nil : Represented [] := ⟨Keyed.increasing_nil, nofun, nofun⟩

theorem lasting_represented : Lasting Represented := by
  constructor
  · intro m db h
    refine ⟨h.names.put db {}, fun other d hd => ?_, fun other d hd => ?_⟩
    · rcases Keyed.mem_of_mem_put hd with heq | hd
      · cases heq
        exact Keyed.increasing_nil
      · exact h.documents other d hd
    · rcases Keyed.mem_of_mem_put hd with heq | hd
      · cases heq
        exact nofun
      · exact h.kept other d hd
  · intro m db h
    exact ⟨h.names.erase db, fun other d hd => h.documents other d (List.mem_filter.1 hd).1,
      fun other d hd => h.kept other d (List.mem_filter.1 hd).1⟩
  · intro m db old id body hold h
    have hmem := Keyed.mem_of_find? hold
    refine ⟨h.names.put db _, fun other d hd => ?_, fun other d hd => ?_⟩
    · rcases Keyed.mem_of_mem_put hd with heq | hd
      · cases heq
        unfold Database.written
        split
        · exact h.documents db old hmem
        · exact (h.documents db old hmem).put id _
      · exact h.documents other d hd
    · rcases Keyed.mem_of_mem_put hd with heq | hd
      · cases heq
        unfold Database.written
        split
        · exact h.kept db old hmem
        · next hid =>
          intro other doc hdoc
          rcases Keyed.mem_of_mem_put hdoc with heq | hdoc
          · cases heq
            exact kept_successor hid _ body
          · exact h.kept db old hmem other doc hdoc
      · exact h.kept other d hd

/-- What a reader is answered where no failure waits. -/
def reading (s : MemoryStore) (db id : String) : Except StoreError Document :=
  (serve (.get db id) { s with faults := [] }).1

/-- The ways to look at a document tell the same. -/
structure Observed (s : MemoryStore) (db id : String) : Prop where
  live : ∀ body, s.document db id = some body ↔
    s.reading db id = .ok ⟨id, s.revisionOf db id, body⟩
  tombstone : (s.revisionOf db id).isSome ∧ s.document db id = none ↔
    ∃ doc, s.stored db id = some doc ∧ doc.deleted = true
  deleted : (s.revisionOf db id).isSome ∧ s.document db id = none ↔
    s.reading db id = .error (.notFound "deleted")

variable {s : MemoryStore} {db id : String}

theorem noDatabase_ne_deleted (db : String) : noDatabase db ≠ .notFound "deleted" := by
  intro h
  have htext : "Database does not exist: ".toList ++ db.toList = "deleted".toList := by
    rw [← String.toList_append]
    exact congrArg String.toList (StoreError.notFound.inj h)
  cases htext

theorem observed (hid : id ≠ securityId) : s.Observed db id := by
  have hget : s.reading db id = (get db id { s with faults := [] }).1 := rfl
  cases hd : s.databases.find? db with
  | none =>
    have hgone : s.reading db id = .error (noDatabase db) := by simp [hget, get, hd]
    constructor
    · simp [hgone, document, hd]
    · simp [revisionOf, stored, hd]
    · simp [hgone, revisionOf, hd, noDatabase_ne_deleted]
  | some d =>
    have hread : s.reading db id = Database.read d id := by simp [hget, get, hd]
    cases hdoc : d.documents.find? id with
    | none =>
      constructor
      · simp [hread, Database.read, document, hd, hid, hdoc]
      · simp [revisionOf, stored, hd, hdoc]
      · simp [hread, Database.read, revisionOf, hd, hid, hdoc]
    | some doc =>
      cases hdel : doc.deleted <;> constructor <;>
        simp [hread, Database.read, document, revisionOf, stored, hd, hid, hdoc, hdel]

def liveNames (s : MemoryStore) (db : String) : List String :=
  match s.databases.find? db with
  | some d => (d.documents.filter (!·.2.deleted)).map (·.1)
  | none => []

theorem length_liveNames (s : MemoryStore) (db : String) :
    (s.liveNames db).length = s.documentCount db := by
  cases hd : s.databases.find? db <;> simp [liveNames, documentCount, hd]

theorem nodup_liveNames (h : Represented s.databases) (db : String) : (s.liveNames db).Nodup := by
  unfold liveNames
  split
  · next d hd =>
    have hincreasing := h.documents db d (Keyed.mem_of_find? hd)
    exact Keyed.Increasing.nodup_keys (hincreasing.filter _)
  · exact List.nodup_nil

theorem mem_liveNames (h : Represented s.databases) :
    id ∈ s.liveNames db ↔ id ≠ securityId ∧ (s.document db id).isSome := by
  unfold liveNames
  cases hd : s.databases.find? db with
  | none => simp [document, hd]
  | some d =>
    have hmem := Keyed.mem_of_find? hd
    have hincreasing := h.documents db d hmem
    constructor
    · intro hid
      obtain ⟨⟨_, doc⟩, hdoc, rfl⟩ := List.mem_map.1 hid
      obtain ⟨hdoc, hdel⟩ := List.mem_filter.1 hdoc
      have hne := (h.kept db d hmem _ doc hdoc).versioned
      have hfind := hincreasing.find?_eq_some_iff.2 hdoc
      simp only [Bool.not_eq_true'] at hdel
      exact ⟨hne, by simp [document, hd, hne, hfind, hdel]⟩
    · rintro ⟨hne, hsome⟩
      cases hdoc : d.documents.find? id with
      | none => simp [document, hd, hne, hdoc] at hsome
      | some doc =>
        have hdel : doc.deleted = false := by
          simpa [document, hd, hne, hdoc] using hsome
        have hdoc := Keyed.mem_of_find? hdoc
        exact List.mem_map.2 ⟨(id, doc), List.mem_filter.2 ⟨hdoc, by simp [hdel]⟩, rfl⟩

theorem revisionOf_eq (s : MemoryStore) (db id : String) :
    s.revisionOf db id = (s.stored db id).map (·.rev) := by
  cases hd : s.databases.find? db with
  | none => simp [revisionOf, stored, hd]
  | some d => cases hdoc : d.documents.find? id <;> simp [revisionOf, stored, hd, hdoc]

theorem represented_of_reachable (h : Reachable s) : Represented s.databases :=
  lasting_represented.of_reachable represented_nil h

theorem Represented.kept_of_stored (h : Represented s.databases) {doc : Stored}
    (hdoc : s.stored db id = some doc) : Kept id doc := by
  obtain ⟨d, hd, hdoc⟩ := Option.bind_eq_some_iff.1 hdoc
  exact h.kept db d (Keyed.mem_of_find? hd) id doc (Keyed.mem_of_find? hdoc)

theorem revisionOf_security (h : Represented s.databases) (db : String) :
    s.revisionOf db securityId = none := by
  rw [revisionOf_eq, Option.map_eq_none_iff, Option.eq_none_iff_forall_ne_some]
  exact fun doc hdoc => (h.kept_of_stored hdoc).versioned rfl

/-- A store as its users may rely on it. -/
structure Coherent (s : MemoryStore) : Prop where
  represented : Represented s.databases
  observed : ∀ db id, id ≠ securityId → s.Observed db id
  counted : ∀ db, ∃ ids : List String, ids.Nodup ∧
    (∀ id, id ∈ ids ↔ id ≠ securityId ∧ (s.document db id).isSome) ∧
    ids.length = s.documentCount db
  unversioned : ∀ db, s.revisionOf db securityId = none

/-- Whatever was called, and whatever failures and competing writes were put in the way. -/
theorem coherent_of_reachable (h : Reachable s) : s.Coherent := by
  have hrep := represented_of_reachable h
  refine ⟨hrep, fun db id hid => observed hid, fun db => ?_, revisionOf_security hrep⟩
  exact ⟨s.liveNames db, nodup_liveNames hrep db, fun id => mem_liveNames hrep,
    length_liveNames s db⟩

/-- A document whose body was sent with names of the store's own, and one that a competing write
deleted while its first version was being written over. -/
def contested : MemoryStore :=
  let made := (serve (.create "db") empty).2
  let kept := (serve (.insert "db" "doc"
    (.object [("_deleted", .string "no"), ("_id", .null), ("text", .string "kept")]) none) made).2
  let doomed := (serve (.insert "db" "gone" (.object []) none) kept).2
  let raced := doomed.raceNext "db" "gone" (.object [("_deleted", .bool true), ("_rev", .bool true)])
  (serve (.insert "db" "gone" (.object []) (some "1-")) (raced.failNext .get (.transport ""))).2

theorem coherent_of_reachable_contested :
    Reachable contested ∧ contested.Coherent ∧
      (contested.document "db" "doc").isSome ∧ (contested.document "db" "gone").isNone ∧
      (contested.revisionOf "db" "gone").isSome ∧ contested.documentCount "db" = 1 := by
  have h : Reachable contested :=
    .call _ (.failNext _ _ (.raceNext _ _ _ (.call _ (.call _ (.call _ .empty)))))
  exact ⟨h, coherent_of_reachable h, by decide +kernel, by decide +kernel, by decide +kernel,
    by decide +kernel⟩

end MemoryStore

end Permits
