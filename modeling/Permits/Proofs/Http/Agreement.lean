import Permits.Proofs.Http.Server
import Permits.Proofs.Policy.WireForm
import Permits.Proofs.Provision.Errands
import Permits.Proofs.Provision.Repair
import Permits.Proofs.Store.Reachable

namespace Permits.Http

open MemoryStore

def permissionIds : List String := [securityId, writeGuardId, deleteGuardId]

section Bodies

theorem regular_group (depth : Nat) (g : SecurityGroup) : Json.Regular (depth + 2) g.json :=
  ⟨(Keyed.increasing_singleton _).cons (by decide), Json.regular_texts depth _,
    Json.regular_texts depth _, trivial⟩

theorem sendable_descriptor (d : SecurityDescriptor) : Sendable d.body where
  numberFree := by simp [SecurityDescriptor.body, SecurityGroup.numberFree_json]
  increasing := (Keyed.increasing_singleton _).cons (by decide)
  shallow := by simp [SecurityDescriptor.body, regular_group]
  unversioned := rfl

theorem sendable_rule (r : GuardRule) : Sendable r.body where
  numberFree := by simp [GuardRule.body, Json.numberFree]
  increasing := Keyed.increasing_singleton _
  shallow := by simp [GuardRule.body]
  unversioned := rfl

theorem sendable_tombstone : Sendable [("_deleted", .bool true)] where
  numberFree := by simp [Json.numberFree]
  increasing := Keyed.increasing_singleton _
  shallow := by simp
  unversioned := rfl

theorem sendable_nil : Sendable [] where
  numberFree := by simp
  increasing := Keyed.increasing_nil
  shallow := by simp
  unversioned := rfl

/-- Whatever a pass writes can be sent. -/
theorem sendable_stepBody {a : Artifacts} {step : Step} (h : step ∈ a.steps) :
    Sendable (stepBody step) := by
  rcases Artifacts.mem_steps.1 h with rfl | rfl | rfl
  · exact sendable_descriptor a.descriptor
  · exact sendable_rule a.writeGuard
  · cases a.deleteGuard with
    | none => exact sendable_tombstone
    | some r => exact sendable_rule r

end Bodies

/-- Who reads a document at a server learns which revision it has, or that it has none. -/
def RevisionTold (s : MemoryStore) (db id : String) : Prop :=
  (Server.reply (.get db id) (serve (.get db id) s).1).basis? = some (s.currentRev db id)

/-- So it is with the permission documents of every database that a URL can tell. -/
def RevisionsTold (s : MemoryStore) : Prop :=
  ∀ db, Url.Ordinary db → ∀ id ∈ permissionIds, RevisionTold s db id

section Revisions

variable {s : MemoryStore} {db id : String}

/-- A document that is missing has no revision to be told. -/
theorem revisionTold_iff (hq : s.Quiet) : RevisionTold s db id ↔
    ∀ body, s.document db id = some body →
      (Server.json 200 (Server.sent ⟨id, s.currentRev db id, body⟩)).basis? =
        some (s.currentRev db id) := by
  cases hbody : s.document db id with
  | none =>
    obtain ⟨text, hget⟩ := serve_get_missing hq hbody
    rw [RevisionTold, hget, currentRev_of_missing hbody]
    exact iff_of_true rfl nofun
  | some body =>
    rw [RevisionTold, serve_get_live hq hbody]
    exact ⟨fun h _ hsome => Option.some.inj hsome ▸ h, fun h => h body rfl⟩

theorem revisionTold_congr {t : MemoryStore} (hs : s.Quiet) (ht : t.Quiet)
    (hdocument : t.document db id = s.document db id) (hstored : t.stored db id = s.stored db id) :
    RevisionTold t db id ↔ RevisionTold s db id := by
  rw [revisionTold_iff hs, revisionTold_iff ht, hdocument, currentRev_eq, currentRev_eq, hstored]

theorem revisionTold_of_sendable (hq : s.Quiet)
    (h : ∀ body, s.document db id = some body → Sendable body) : RevisionTold s db id :=
  (revisionTold_iff hq).2 fun body hbody =>
    (h body hbody).toLegible.basis?_sent fun _ => (h body hbody).unversioned

end Revisions

/-- A store whose answers to errands a server can pass on. -/
structure Served (s : MemoryStore) : Prop where
  quiet : s.Quiet
  told : RevisionsTold s

section Calls

variable {s : MemoryStore} {db id : String}

/-- Only what becomes of one database is to be looked at. -/
theorem Served.of_find? {t : MemoryStore} (h : Served s) (quiet : t.Quiet)
    (others : ∀ other, other ≠ db → t.databases.find? other = s.databases.find? other)
    (self : Url.Ordinary db → ∀ id ∈ permissionIds, RevisionTold t db id) : Served t := by
  refine ⟨quiet, fun other hordinary id hid => ?_⟩
  by_cases hother : other = db
  · subst hother
    exact self hordinary id hid
  · have hsame := others other hother
    have hstored : t.stored other id = s.stored other id := by rw [stored, stored, hsame]
    exact (revisionTold_congr h.quiet quiet (document_congr hsame id) hstored).2
      (h.told other hordinary id hid)

theorem Served.withDatabase (h : Served s) (db : String) : Served (s.withDatabase db) := by
  have hq := quiet_withDatabase h.quiet db
  apply h.of_find? hq (fun other hother => find?_withDatabase_of_ne hother s)
  intro _ id _
  refine revisionTold_of_sendable hq fun body hbody => ?_
  have hnew : (s.withDatabase db).databases.find? db = some {} := Keyed.find?_put_self _ _ _
  by_cases hid : id = securityId
  · simp [document, hnew, hid] at hbody
    exact hbody ▸ sendable_nil
  · simp [document, hnew, hid] at hbody

theorem Served.written (h : Served s) {a : Artifacts} {step : Step} (hstep : step ∈ a.steps) :
    Served (s.written db step.1 (stepBody step)) := by
  cases hex : s.databaseExists db with
  | false =>
    have hd : s.databases.find? db = none := by
      simpa [databaseExists, Keyed.contains] using hex
    rw [MemoryStore.written, hd]
    exact h
  | true =>
    have hq := quiet_written h.quiet db step.1 (stepBody step)
    apply h.of_find? hq (fun other hother => find?_written_of_ne hother step.1 (stepBody step))
    intro hordinary id hid
    by_cases hself : id = step.1
    · subst hself
      refine revisionTold_of_sendable hq fun body hbody => ?_
      rw [document_written_step hex (Artifacts.plain_of_mem_steps hstep)
        (Artifacts.retires_of_mem_steps hstep)] at hbody
      exact stepBody_of_some hbody ▸ sendable_stepBody hstep
    · exact (revisionTold_congr h.quiet hq (document_written_of_ne hself s db _)
        (stored_written_of_ne hself s db _)).2 (h.told db hordinary id hid)

end Calls

section Link

variable (c : Client) {s : MemoryStore}

def Client.far (c : Client) : Service MemoryStore := c.service (Server.answer c.base.mount)

end Link

section Converse

variable (c : Client) {db : String} {a : Artifacts} {s : MemoryStore}

/-- An update that opens a database to all and so installs every permission document. -/
def opening (db : String) : Errand :=
  .update ⟨hashedTranslator, {}⟩ "alice" db "app" ⟨some { write := .anyone }⟩

end Converse

end Permits.Http
