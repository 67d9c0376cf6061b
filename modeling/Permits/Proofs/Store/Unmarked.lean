import Permits.Http.Client
import Permits.Proofs.Data.Fallible
import Permits.Proofs.Store.Journal

namespace Permits

/-- The body does not repeat what a document says of itself. -/
def Unmarked (body : Members) : Prop :=
  Keyed.contains body "_id" = false ∧ Keyed.contains body "_rev" = false

namespace MemoryStore

def after (moves : List Move) : MemoryStore := moves.foldl (fun s m => m.apply s) empty

/-- Security objects are only written as allowed. -/
def Secures (allowed : Members → Prop) (moves : List Move) : Prop :=
  ∀ db body rev, .call (.insert db securityId (.object body) rev) ∈ moves → allowed body

variable {s t : MemoryStore} {db db' id : String} {ms body : Members} {rev : Option String}
  {answer : Except StoreError (Option String)}

section Security

theorem document_security_written (hex : s.databaseExists db' = true) (id : String)
    (ms : Members) (db : String) : (s.written db' id ms).document db securityId =
      if db' = db ∧ id = securityId then some ms else s.document db securityId := by
  by_cases hdb : db' = db
  · subst hdb
    by_cases hid : id = securityId
    · subst hid
      rw [if_pos ⟨rfl, rfl⟩]
      exact document_written_security hex ms
    · rw [if_neg fun h => hid h.2]
      exact document_written_of_ne (Ne.symm hid) s db' ms
  · rw [if_neg fun h => hdb h.1]
    exact document_congr (find?_written_of_ne (Ne.symm hdb) id ms) securityId

theorem Attempt.security (h : Attempt db' id ms rev s answer t) (db : String) :
    t.document db securityId = s.document db securityId ∨
      (db' = db ∧ id = securityId) ∧ t.document db securityId = some ms := by
  cases h with
  | refused _ _ => exact .inl rfl
  | taken accepted =>
    rw [document_security_written (databaseExists_of_accepts accepted)]
    by_cases hown : db' = db ∧ id = securityId
    · rw [if_pos hown]
      exact .inr ⟨hown, rfl⟩
    · rw [if_neg hown]
      exact .inl rfl

/-- A competing write to a security object does not last: the write that it got ahead of follows. -/
theorem Insertion.security (h : Insertion db' id ms rev s answer t) (db : String) :
    t.document db securityId = s.document db securityId ∨
      (db' = db ∧ id = securityId) ∧ t.document db securityId = some ms := by
  cases h with
  | faulted failure =>
    obtain ⟨before, after, -, -, rfl⟩ := failure
    exact .inl rfl
  | alone _ _ own => exact own.security db
  | spoiled _ _ _ _ => exact .inl rfl
  | @overtaken rival _ _ _ _ ahead own =>
    have hex : (s.unrivalled db' id).databaseExists db' = true := databaseExists_of_accepts ahead
    have hrival := document_security_written hex id rival db
    by_cases hown : db' = db ∧ id = securityId
    · cases own with
      | taken accepted =>
        rw [document_security_written (databaseExists_of_accepts accepted), if_pos hown]
        exact .inr ⟨hown, rfl⟩
      | refused _ turned => exact absurd hown.2 (ne_securityId_of_refused ahead turned)
    · rw [if_neg hown] at hrival
      rcases own.security db with hsame | ⟨hown', -⟩
      · exact .inl (hsame.trans hrival)
      · exact absurd hown' hown

theorem document_security_aside {c : StoreCall} (hinsert : c.inserts = false)
    (h : (serve c s).2.document db securityId = some body) :
    s.document db securityId = some body ∨ body = [] := by
  rcases serve_cases hinsert with ⟨rest, hserve⟩ | ⟨new, -, hserve⟩ | ⟨old, -, hserve⟩
  · rw [hserve] at h
    exact .inl h
  · rw [hserve] at h
    by_cases hdb : db = new
    · subst hdb
      rw [document_security, withDatabase, Keyed.find?_put_self] at h
      cases h
      exact .inr rfl
    · rw [document_congr (find?_withDatabase_of_ne hdb s)] at h
      exact .inl h
  · rw [hserve] at h
    by_cases hdb : db = old
    · subst hdb
      rw [document_security, Keyed.find?_erase_self] at h
      cases h
    · rw [document_congr (Keyed.find?_erase_of_ne s.databases hdb)] at h
      exact .inl h

/-- A security object is as it was before the call, or new with its database, or what the call has
sent. -/
theorem document_security_serve {c : StoreCall}
    (h : (serve c s).2.document db securityId = some body) :
    s.document db securityId = some body ∨ body = [] ∨
      ∃ rev, c = .insert db securityId (.object body) rev := by
  cases c with
  | insert db' id sent rev =>
    rcases serve_insert_cases db' id sent rev s with ⟨e, hrefused⟩ | ⟨ms, rfl⟩
    · rw [hrefused] at h
      exact .inl h
    · rcases (insertion_serve db' id ms rev s).security db with hsame | ⟨⟨rfl, rfl⟩, hwritten⟩
      · exact .inl (hsame.symm.trans h)
      · rw [hwritten] at h
        cases h
        exact .inr (.inr ⟨rev, rfl⟩)
  | create db' => exact (document_security_aside rfl h).imp_right .inl
  | destroy db' => exact (document_security_aside rfl h).imp_right .inl
  | get db' id => exact (document_security_aside rfl h).imp_right .inl

/-- Along a run, a security object is what it was at first, or empty, or what some call sent. -/
theorem security_of_run {moves : List Move}
    (h : (moves.foldl (fun s m => m.apply s) s).document db securityId = some body) :
    s.document db securityId = some body ∨ body = [] ∨
      ∃ rev, .call (.insert db securityId (.object body) rev) ∈ moves := by
  induction moves generalizing s with
  | nil => exact .inl h
  | cons m moves ih =>
    rcases ih h with hnext | hempty | ⟨rev, hlater⟩
    · cases m with
      | failNext op e => exact .inl hnext
      | raceNext db' id competing => exact .inl hnext
      | call c =>
        rcases document_security_serve hnext with hsame | hempty | ⟨rev, rfl⟩
        · exact .inl hsame
        · exact .inr (.inl hempty)
        · exact .inr (.inr ⟨rev, List.mem_cons_self⟩)
    · exact .inr (.inl hempty)
    · exact .inr (.inr ⟨rev, List.mem_cons_of_mem _ hlater⟩)

end Security

section Documents

theorem Reachable.run (h : Reachable s) (moves : List Move) :
    Reachable (moves.foldl (fun s m => m.apply s) s) := by
  induction moves generalizing s with
  | nil => exact h
  | cons m moves ih =>
    apply ih
    cases m with
    | call c => exact .call c h
    | failNext op e => exact .failNext op e h
    | raceNext db id body => exact .raceNext db id body h

/-- The states that a new store can come to are those that runs lead to. -/
theorem reachable_iff : Reachable s ↔ ∃ moves, s = after moves := by
  have hlast (moves : List Move) (m : Move) : m.apply (after moves) = after (moves ++ [m]) := by
    rw [after, after, List.foldl_append]
    rfl
  constructor
  · intro h
    induction h with
    | empty => exact ⟨[], rfl⟩
    | call c _ ih =>
      obtain ⟨moves, rfl⟩ := ih
      exact ⟨_, hlast moves (.call c)⟩
    | failNext op e _ ih =>
      obtain ⟨moves, rfl⟩ := ih
      exact ⟨_, hlast moves (.failNext op e)⟩
    | raceNext db id body _ ih =>
      obtain ⟨moves, rfl⟩ := ih
      exact ⟨_, hlast moves (.raceNext db id body)⟩
  · rintro ⟨moves, rfl⟩
    exact Reachable.empty.run moves

theorem document_of_read {d : Database} {doc : Document} (hd : s.databases.find? db = some d)
    (h : Database.read d id = .ok doc) : s.document db id = some doc.body := by
  unfold Database.read at h
  split at h
  · next hid =>
    cases h
    rw [hid, document_security, hd]
    rfl
  · next hid =>
    split at h
    · next kept hkept =>
      split at h
      · cases h
      · next hlive =>
        cases h
        simp [document, hd, hid, hkept, hlive]
    · cases h

theorem document_of_get {doc : Document} (h : (serve (.get db id) s).1 = .ok doc) :
    s.document db id = some doc.body := by
  rcases faulty_delivered .get s (get db id) with ⟨e, t, -, hserve⟩ | ⟨-, hserve⟩
  · rw [serve, hserve] at h
    cases h
  · rw [serve, hserve, get] at h
    split at h
    · next d hd => exact document_of_read hd h
    · cases h

theorem unmarked_of_versioned (h : Reachable s) (hid : id ≠ securityId)
    (hdoc : s.document db id = some body) : Unmarked body := by
  rw [document_of_ne hid] at hdoc
  obtain ⟨kept, hstored, hlive⟩ := Option.bind_eq_some_iff.1 hdoc
  have hkept := (represented_of_reachable h).kept_of_stored hstored
  cases hdel : kept.deleted with
  | true => simp [hdel] at hlive
  | false =>
    have hbody : kept.body = body := by simpa [hdel] using hlive
    rw [← hbody]
    exact ⟨hkept.bare "_id" (by decide), hkept.bare "_rev" (by decide)⟩

theorem unmarked_of_ofJson {value : Json} {doc : Document}
    (h : Document.ofJson id value = .ok doc) : Unmarked doc.body := by
  cases value with
  | object ms =>
    have hbare : Unmarked ((Keyed.erase ms "_rev").erase "_id") := by
      constructor
      · rw [Keyed.contains, Keyed.find?_erase_self]
        rfl
      · rw [Keyed.contains, Keyed.find?_erase_of_ne _ (by decide), Keyed.find?_erase_self]
        rfl
    simp only [Document.ofJson] at h
    split at h
    · cases h
      exact hbare
    · cases h
      exact hbare
    · cases h
  | _ => cases h

variable {σ : Type} {send : Http.Request → σ → Http.Reply × σ} {link : σ}

theorem unmarked_of_client {client : Http.Client} {doc : Document}
    (h : (client.service send (.get db id) link).1 = .ok doc) : Unmarked doc.body := by
  unfold Http.Client.service at h
  split at h
  · cases h
  · next request _ =>
    have hreply : (send request link).1.document id = .ok doc := h
    obtain ⟨content, -, hcontent⟩ := bind_eq_ok.1 hreply
    obtain ⟨value, -, hvalue⟩ := bind_eq_ok.1 hcontent
    exact unmarked_of_ofJson hvalue

/-- The store in memory hands out what was written to a security object as it came, so that its
documents are unmarked in every run just if nothing else is ever written to one. Its other
documents, and those that a client reads, are always unmarked. -/
theorem documents_unmarked_iff (allowed : Members → Prop) :
    ((∀ moves, Secures allowed moves → ∀ db id doc,
        (serve (.get db id) (after moves)).1 = .ok doc → Unmarked doc.body) ↔
      ∀ body, allowed body → Unmarked body) ∧
    (∀ s, Reachable s → ∀ db id doc, id ≠ securityId →
      (serve (.get db id) s).1 = .ok doc → Unmarked doc.body) ∧
    ∀ (client : Http.Client) (σ : Type) (send : Http.Request → σ → Http.Reply × σ) (link : σ)
      db id doc, (client.service send (.get db id) link).1 = .ok doc → Unmarked doc.body := by
  have hversioned : ∀ s, Reachable s → ∀ db id doc, id ≠ securityId →
      (serve (.get db id) s).1 = .ok doc → Unmarked doc.body :=
    fun s hs db id doc hid hdoc => unmarked_of_versioned hs hid (document_of_get hdoc)
  refine ⟨⟨?_, ?_⟩, hversioned, fun client σ send link db id doc h => unmarked_of_client h⟩
  · intro hrun body hbody
    -- a store with one database, whose security object is the body
    let run : List Move :=
      [.call (.create "db"), .call (.insert "db" securityId (.object body) none)]
    have hmoves : Secures allowed run := by
      intro db sent rev hsent
      rcases List.mem_cons.1 hsent with heq | hsent
      · cases heq
      · cases List.mem_singleton.1 hsent
        exact hbody
    have hget : (serve (.get "db" securityId) (after run)).1 = .ok ⟨securityId, none, body⟩ := rfl
    exact hrun run hmoves _ _ _ hget
  · intro hallowed moves hmoves db id doc hdoc
    by_cases hid : id = securityId
    · subst hid
      rcases security_of_run (document_of_get hdoc) with hfirst | hempty | ⟨rev, hsent⟩
      · cases hfirst
      · rw [hempty]
        exact ⟨rfl, rfl⟩
      · exact hallowed _ (hmoves _ _ _ hsent)
    · exact hversioned _ (reachable_iff.2 ⟨moves, rfl⟩) db id doc hid hdoc

def signed : Members := [("_id", .string "x"), ("_rev", .string "1-a")]

/-- A document with a marked body, and a security object that a marked one gets ahead of. -/
def countersigned : List Move :=
  [.call (.create "db"), .call (.insert "db" "doc" (.object signed) none),
    .raceNext "db" securityId (.object signed),
    .call (.insert "db" securityId (.object [("admins", .object [])]) none)]

theorem documents_unmarked_iff_countersigned :
    let read (id : String) := (serve (.get "db" id) (after countersigned)).1
    Secures Unmarked countersigned ∧ (∃ doc, read "doc" = .ok doc ∧ Unmarked doc.body) ∧
      ∃ doc, read securityId = .ok doc ∧ doc.body = [("admins", .object [])] ∧
        Unmarked doc.body := by
  intro read
  have hmoves : Secures Unmarked countersigned := by
    intro db body rev hsent
    simp only [countersigned, List.mem_cons, List.not_mem_nil, Move.call.injEq, reduceCtorEq,
      StoreCall.insert.injEq, Json.object.injEq, or_false, false_or] at hsent
    rcases hsent with ⟨-, hid, -⟩ | ⟨-, -, rfl, -⟩
    · exact absurd hid (by decide)
    · exact ⟨rfl, rfl⟩
  have hclean := (documents_unmarked_iff Unmarked).1.2 (fun _ h => h) countersigned hmoves
  have hdoc : ∃ doc, read "doc" = .ok doc := ⟨_, rfl⟩
  obtain ⟨doc, hread⟩ := hdoc
  have hsecurity : read securityId = .ok ⟨securityId, none, [("admins", .object [])]⟩ := rfl
  exact ⟨hmoves, ⟨doc, hread, hclean _ _ _ hread⟩, _, hsecurity, rfl, hclean _ _ _ hsecurity⟩

/-- A security object keeps its marks in memory. At the other end of a link they would be taken out
of it. -/
theorem security_object_marked :
    let run := [.call (.create "db"), .call (.insert "db" securityId (.object signed) none)]
    Reachable (after run) ∧
      (serve (.get "db" securityId) (after run)).1 = .ok ⟨securityId, none, signed⟩ ∧
      ¬ Unmarked signed ∧
      Document.ofJson securityId (.object signed) = .ok ⟨securityId, some "1-a", []⟩ := by
  intro run
  have hmarked : ¬ Unmarked signed := fun h => Bool.noConfusion h.1
  exact ⟨reachable_iff.2 ⟨run, rfl⟩, rfl, hmarked, rfl⟩

end Documents

end MemoryStore

end Permits
