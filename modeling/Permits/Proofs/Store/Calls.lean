import Permits.Store.Memory

namespace Permits

namespace MemoryStore

/-- No failure and no competing write is waiting. -/
structure Quiet (s : MemoryStore) : Prop where
  faults : s.faults = []
  races : s.races = []

theorem quiet_empty : empty.Quiet := ⟨rfl, rfl⟩

/-- What is kept under a name other than that of the security object, tombstones too. -/
def stored (s : MemoryStore) (db id : String) : Option Stored :=
  (s.databases.find? db).bind (·.documents.find? id)

/-- The revision that a reader is told. -/
def currentRev (s : MemoryStore) (db id : String) : Option String :=
  if id = securityId then none else s.liveRevision db id

/-- The store takes a write over a revision. -/
def accepts (s : MemoryStore) (db id : String) (rev : Option String) (deleting : Bool) : Bool :=
  s.databaseExists db && (id = securityId || admits (s.stored db id) rev deleting)

def Database.written (d : Database) (id : String) (body : Members) : Database :=
  if id = securityId then { d with security := body }
  else { d with documents := d.documents.put id (successor (d.documents.find? id) body) }

/-- The store after it took a write. -/
def written (s : MemoryStore) (db id : String) (body : Members) : MemoryStore :=
  match s.databases.find? db with
  | none => s
  | some d =>
    { s with databases := s.databases.put db (Database.written d id body), writes := s.writes + 1 }

/-- The answer to a write that the store took. -/
def writtenRev (s : MemoryStore) (db id : String) (body : Members) : Option String :=
  if id = securityId then none else some (successor (s.stored db id) body).rev

def withDatabase (s : MemoryStore) (db : String) : MemoryStore :=
  { s with databases := s.databases.put db {} }

variable {s : MemoryStore} {db id : String} {body : Members} {rev : Option String}

theorem exists_database (h : s.databaseExists db = true) : ∃ d, s.databases.find? db = some d :=
  Option.isSome_iff_exists.1 h

theorem stored_of_find? {d : Database} (h : s.databases.find? db = some d) :
    s.stored db id = d.documents.find? id := by
  simp [stored, h]

/-- What a reader sees of a document other than the security object. -/
theorem document_of_ne (h : id ≠ securityId) :
    s.document db id = (s.stored db id).bind fun d => if d.deleted then none else some d.body := by
  cases hd : s.databases.find? db <;> simp [document, stored, hd, h]

theorem document_security (s : MemoryStore) (db : String) :
    s.document db securityId = (s.databases.find? db).map (·.security) := by
  cases hd : s.databases.find? db <;> simp [document, hd]

theorem document_congr {t : MemoryStore} (h : s.databases.find? db = t.databases.find? db)
    (id : String) : s.document db id = t.document db id := by
  rw [document, document, h]

theorem databaseExists_of_document (h : s.document db id = some body) :
    s.databaseExists db = true := by
  cases hd : s.databases.find? db with
  | none => simp [document, hd] at h
  | some d => simp [databaseExists, Keyed.contains, hd]

section Answers

theorem serve_create (hq : s.Quiet) : serve (.create db) s =
    if s.databaseExists db then (.error (.alreadyExists db), s)
    else (.ok (), s.withDatabase db) := by
  simp only [serve, faulty, hq.faults, popFault]
  rfl

theorem serve_destroy (hq : s.Quiet) : serve (.destroy db) s =
    if s.databaseExists db then (.ok (), { s with databases := s.databases.erase db })
    else (.error (noDatabase db), s) := by
  have hpop : popFault .destroy s.faults = none := by
    rw [hq.faults]
    rfl
  simp only [serve, faulty, hpop]
  rfl

/-- A reader is told the body and the current revision of a live document. -/
theorem serve_get_live (hq : s.Quiet) (hb : s.document db id = some body) :
    serve (.get db id) s = (.ok ⟨id, s.currentRev db id, body⟩, s) := by
  simp only [serve, faulty, hq.faults, popFault, get]
  cases hd : s.databases.find? db with
  | none => simp [document, hd] at hb
  | some d =>
    by_cases hid : id = securityId
    · subst hid
      have hbody : d.security = body := by simpa [document, hd] using hb
      simp [Database.read, currentRev, hbody]
    · cases hdoc : d.documents.find? id with
      | none => simp [document, hd, hid, hdoc] at hb
      | some doc =>
        cases hdel : doc.deleted with
        | true => simp [document, hd, hid, hdoc, hdel] at hb
        | false =>
          have hbody : doc.body = body := by simpa [document, hd, hid, hdoc, hdel] using hb
          simp [Database.read, currentRev, liveRevision, hd, hid, hdoc, hdel, hbody]

theorem serve_get_missing (hq : s.Quiet) (hb : s.document db id = none) :
    ∃ text, serve (.get db id) s = (.error (.notFound text), s) := by
  simp only [serve, faulty, hq.faults, popFault, get]
  cases hd : s.databases.find? db with
  | none => exact ⟨_, rfl⟩
  | some d =>
    by_cases hid : id = securityId
    · simp [document, hd, hid] at hb
    · cases hdoc : d.documents.find? id with
      | none => exact ⟨"missing", by simp [Database.read, hid, hdoc]⟩
      | some doc =>
        cases hdel : doc.deleted with
        | true => exact ⟨"deleted", by simp [Database.read, hid, hdoc, hdel]⟩
        | false => simp [document, hd, hid, hdoc, hdel] at hb

/-- Reading changes nothing. -/
theorem serve_get_state (hq : s.Quiet) (db id : String) : (serve (.get db id) s).2 = s := by
  cases hb : s.document db id with
  | some body => rw [serve_get_live hq hb]
  | none =>
    obtain ⟨text, h⟩ := serve_get_missing hq hb
    rw [h]

/-- Only an object can be inserted; anything else is refused before the store looks at it. -/
theorem serve_insert_cases (db id : String) (body : Json) (rev : Option String) (s : MemoryStore) :
    (∃ e, serve (.insert db id body rev) s = (.error e, s)) ∨ ∃ ms, body = .object ms := by
  cases body with
  | object ms => exact .inr ⟨ms, rfl⟩
  | _ => exact .inl ⟨_, rfl⟩

theorem serve_insert_eq (hq : s.Quiet) (db id : String) (body : Members) (rev : Option String) :
    serve (.insert db id (.object body) rev) s = s.writeOrStay db id body rev := by
  simp [serve, insert, stamped, faulty, hq.faults, popFault, insertRaced, hq.races]

/-- All that a write asks, does and answers. -/
theorem write_eq (s : MemoryStore) (db id : String) (body : Members) (rev : Option String) :
    s.write db id body rev =
      if s.accepts db id rev (deletes body) then
        .ok (s.writtenRev db id body, s.written db id body)
      else .error (if s.databaseExists db then stale else noDatabase db) := by
  unfold write accepts
  cases hd : s.databases.find? db with
  | none =>
    have hex : s.databaseExists db = false := by simp [databaseExists, Keyed.contains, hd]
    simp [hex]
  | some d =>
    have hex : s.databaseExists db = true := by simp [databaseExists, Keyed.contains, hd]
    by_cases hid : id = securityId
    · simp [hex, hid, writtenRev, written, hd, Database.written]
    · cases hadm : admits (d.documents.find? id) rev (deletes body) <;>
        simp [hex, hid, hadm, writtenRev, written, hd, stored_of_find? hd, Database.written]

theorem writeOrStay_eq (s : MemoryStore) (db id : String) (body : Members) (rev : Option String) :
    s.writeOrStay db id body rev =
      if s.accepts db id rev (deletes body) then
        (.ok (s.writtenRev db id body), s.written db id body)
      else (.error (if s.databaseExists db then stale else noDatabase db), s) := by
  rw [writeOrStay, write_eq]
  cases s.accepts db id rev (deletes body) <;> rfl

theorem serve_insert_of_accepts (hq : s.Quiet) (ha : s.accepts db id rev (deletes body) = true) :
    serve (.insert db id (.object body) rev) s =
      (.ok (s.writtenRev db id body), s.written db id body) := by
  rw [serve_insert_eq hq, writeOrStay_eq, if_pos ha]

theorem serve_insert_of_not_accepts (hq : s.Quiet) (hex : s.databaseExists db = true)
    (ha : s.accepts db id rev (deletes body) = false) :
    serve (.insert db id (.object body) rev) s = (.error stale, s) := by
  rw [serve_insert_eq hq, writeOrStay_eq, ha, hex]
  rfl

theorem serve_insert_missing (hq : s.Quiet) (hex : s.databaseExists db = false) (id : String)
    (body : Members) (rev : Option String) :
    serve (.insert db id (.object body) rev) s = (.error (noDatabase db), s) := by
  have ha : s.accepts db id rev (deletes body) = false := by rw [accepts, hex, Bool.false_and]
  rw [serve_insert_eq hq, writeOrStay_eq, ha, hex]
  rfl

theorem currentRev_of_missing (hb : s.document db id = none) : s.currentRev db id = none := by
  by_cases hid : id = securityId
  · simp [currentRev, hid]
  · rw [document_of_ne hid] at hb
    simp only [currentRev, if_neg hid, liveRevision]
    cases hd : s.databases.find? db with
    | none => rfl
    | some d =>
      rw [stored_of_find? hd] at hb
      cases hdoc : d.documents.find? id with
      | none => simp [hdoc]
      | some doc =>
        cases hdel : doc.deleted with
        | true => simp [hdoc, hdel]
        | false => simp [hdoc, hdel] at hb

/-- Nobody came between: a write over the revision that has just been read goes through. -/
theorem accepts_currentRev (hex : s.databaseExists db = true) :
    s.accepts db id (s.currentRev db id) false = true := by
  obtain ⟨d, hd⟩ := exists_database hex
  by_cases hid : id = securityId
  · simp [accepts, hex, hid]
  · cases hdoc : d.documents.find? id with
    | none =>
      simp [accepts, hex, hid, stored_of_find? hd, currentRev, liveRevision, hd, hdoc, admits]
    | some doc =>
      cases hdel : doc.deleted <;>
        simp [accepts, hex, hid, stored_of_find? hd, currentRev, liveRevision, hd, hdoc, admits,
          hdel]

/-- So does a deletion, where there is something to delete. -/
theorem accepts_delete (hid : id ≠ securityId) (hb : s.document db id = some body) :
    ∃ r, s.currentRev db id = some r ∧ s.accepts db id (some r) true = true := by
  have hex := databaseExists_of_document hb
  obtain ⟨d, hd⟩ := exists_database hex
  cases hdoc : d.documents.find? id with
  | none => simp [document, hd, hid, hdoc] at hb
  | some doc =>
    cases hdel : doc.deleted with
    | true => simp [document, hd, hid, hdoc, hdel] at hb
    | false =>
      refine ⟨doc.rev, ?_, ?_⟩
      · simp [currentRev, liveRevision, hd, hid, hdoc, hdel]
      · simp [accepts, hex, hid, stored_of_find? hd, hdoc, admits, hdel]

/-- Only live documents other than the security object have a revision to be replaced. -/
theorem isSome_currentRev (s : MemoryStore) (db id : String) :
    (s.currentRev db id).isSome = decide (id ≠ securityId ∧ (s.document db id).isSome) := by
  cases hb : s.document db id with
  | none => simp [currentRev_of_missing hb]
  | some body =>
    by_cases hid : id = securityId
    · simp [currentRev, hid]
    · obtain ⟨r, hr, -⟩ := accepts_delete hid hb
      simp [hr, hid]

theorem accepts_congr {u v : MemoryStore} (hu : u.databaseExists db = true)
    (hv : v.databaseExists db = true) (h : u.stored db id = v.stored db id) (rev : Option String)
    (deleting : Bool) : u.accepts db id rev deleting = v.accepts db id rev deleting := by
  rw [accepts, accepts, hu, hv, h]

theorem currentRev_eq (s : MemoryStore) (db id : String) : s.currentRev db id =
    if id = securityId then none
    else (s.stored db id).bind fun doc => if doc.deleted then none else some doc.rev := by
  cases hd : s.databases.find? db <;> simp [currentRev, liveRevision, stored, hd]

theorem databaseExists_of_accepts {deleting : Bool} (h : s.accepts db id rev deleting = true) :
    s.databaseExists db = true := by
  rw [accepts, Bool.and_eq_true] at h
  exact h.1

/-- A write over a revision is accepted only where that is the revision of the document. -/
theorem stored_of_accepts {r : String} {deleting : Bool} (hid : id ≠ securityId)
    (h : s.accepts db id (some r) deleting = true) :
    ∃ doc, s.stored db id = some doc ∧ doc.rev = r := by
  simp only [accepts, hid, decide_false, Bool.false_or, Bool.and_eq_true] at h
  obtain ⟨-, h⟩ := h
  cases hdoc : s.stored db id with
  | none => simp [hdoc, admits] at h
  | some doc =>
    refine ⟨doc, rfl, ?_⟩
    cases hdel : doc.deleted with
    | true => simpa [hdoc, admits, hdel, eq_comm] using h
    | false => simpa [hdoc, admits, hdel, eq_comm] using h

end Answers

section Written

theorem quiet_written (hq : s.Quiet) (db id : String) (body : Members) :
    (s.written db id body).Quiet := by
  unfold written
  split
  · exact hq
  · exact ⟨hq.faults, hq.races⟩

theorem find?_written_of_ne {other : String} (h : other ≠ db) (id : String) (body : Members) :
    (s.written db id body).databases.find? other = s.databases.find? other := by
  unfold written
  split
  · rfl
  · exact Keyed.find?_put_of_ne _ _ h

theorem find?_written_self {d : Database} (hd : s.databases.find? db = some d) (id : String)
    (body : Members) :
    (s.written db id body).databases.find? db = some (Database.written d id body) := by
  simp [written, hd]

theorem databaseExists_written (s : MemoryStore) (db id : String) (body : Members)
    (other : String) : (s.written db id body).databaseExists other = s.databaseExists other := by
  by_cases h : other = db
  · subst h
    cases hd : s.databases.find? other with
    | none => simp [written, hd]
    | some d => simp [databaseExists, Keyed.contains, find?_written_self hd, hd]
  · simp [databaseExists, Keyed.contains, find?_written_of_ne h]

theorem stored_written_of_ne {other : String} (h : other ≠ id) (s : MemoryStore) (db : String)
    (body : Members) : (s.written db id body).stored db other = s.stored db other := by
  cases hd : s.databases.find? db with
  | none => simp [written, hd]
  | some d =>
    rw [stored_of_find? (find?_written_self hd id body), stored_of_find? hd, Database.written]
    split
    · rfl
    · exact Keyed.find?_put_of_ne _ _ h

theorem stored_written_self (hex : s.databaseExists db = true) (hid : id ≠ securityId)
    (body : Members) :
    (s.written db id body).stored db id = some (successor (s.stored db id) body) := by
  obtain ⟨d, hd⟩ := exists_database hex
  rw [stored_of_find? (find?_written_self hd id body), stored_of_find? hd, Database.written,
    if_neg hid]
  exact Keyed.find?_put_self _ _ _

theorem document_written_of_ne {other : String} (h : other ≠ id) (s : MemoryStore) (db : String)
    (body : Members) : (s.written db id body).document db other = s.document db other := by
  by_cases hs : other = securityId
  · subst hs
    cases hd : s.databases.find? db with
    | none => simp [written, hd]
    | some d =>
      rw [document_security, document_security, find?_written_self hd id body, hd,
        Database.written, if_neg (Ne.symm h)]
      rfl
  · rw [document_of_ne hs, document_of_ne hs, stored_written_of_ne h]

theorem document_written_security (hex : s.databaseExists db = true) (body : Members) :
    (s.written db securityId body).document db securityId = some body := by
  obtain ⟨d, hd⟩ := exists_database hex
  rw [document_security, find?_written_self hd securityId body, Database.written, if_pos rfl]
  rfl

theorem document_written_self (hex : s.databaseExists db = true) (hid : id ≠ securityId)
    (body : Members) : (s.written db id body).document db id =
      if deletes body then none else some (content body) := by
  rw [document_of_ne hid, stored_written_self hex hid]
  rfl

theorem writes_written (hex : s.databaseExists db = true) (id : String) (body : Members) :
    (s.written db id body).writes = s.writes + 1 := by
  obtain ⟨d, hd⟩ := exists_database hex
  simp [written, hd]

end Written

section Created

theorem quiet_withDatabase (hq : s.Quiet) (db : String) : (s.withDatabase db).Quiet :=
  ⟨hq.faults, hq.races⟩

theorem databaseExists_withDatabase (s : MemoryStore) (db : String) :
    (s.withDatabase db).databaseExists db = true := by
  simp [databaseExists, withDatabase, Keyed.contains]

theorem find?_withDatabase_of_ne {other : String} (h : other ≠ db) (s : MemoryStore) :
    (s.withDatabase db).databases.find? other = s.databases.find? other :=
  Keyed.find?_put_of_ne _ _ h

/-- A new database holds as much as a missing one. -/
theorem stored_withDatabase (hex : s.databaseExists db = false) (id : String) :
    (s.withDatabase db).stored db id = s.stored db id := by
  have hd : s.databases.find? db = none := by
    simpa [databaseExists, Keyed.contains] using hex
  simp [stored, withDatabase, hd]

end Created

end MemoryStore

end Permits
