import Permits.Proofs.Store.Representation

namespace Permits

namespace MemoryStore

/-- What a write may find in place of its document, if it names a revision or none. -/
inductive Writable (s : MemoryStore) (db id : String) (rev : Option String) (ms : Members) :
    Prop where
  | security (h : id = securityId)
  | live {body : Members} (found : s.document db id = some body)
      (current : rev = s.revisionOf db id)
  | tombstone {r : String} (gone : s.document db id = none) (left : s.revisionOf db id = some r)
      (current : rev = none ∨ rev = some r)
  | new (absent : s.revisionOf db id = none) (unnamed : rev = none)
      (kept : Keyed.find? ms "_deleted" ≠ some (.bool true))

/-- What readers are told once members have been written to `s`. -/
structure ReadBack (s t : MemoryStore) (db id : String) (ms : Members) (r : Option String) :
    Prop where
  versioned : r.isSome = true ↔ id ≠ securityId
  verbatim : id = securityId → (serve (.get db id) t).1 = .ok ⟨id, none, ms⟩
  deleted : id ≠ securityId → Keyed.find? ms "_deleted" = some (.bool true) →
    (serve (.get db id) t).1 = .error (.notFound "deleted")
  kept : id ≠ securityId → Keyed.find? ms "_deleted" ≠ some (.bool true) →
    (serve (.get db id) t).1 = .ok ⟨id, r, ms.filter (·.1 ∉ metadata)⟩
  others : ∀ db' id', (db', id') ≠ (db, id) →
    (serve (.get db' id') t).1 = (serve (.get db' id') s).1

variable {s : MemoryStore} {db id : String} {ms : Members} {rev : Option String}

theorem deletes_iff : deletes ms = true ↔ Keyed.find? ms "_deleted" = some (.bool true) := by
  unfold deletes
  cases hfind : Keyed.find? ms "_deleted" with
  | none => simp
  | some v => cases v <;> simp [Json.flag?]

theorem deletes_eq_false_iff :
    deletes ms = false ↔ Keyed.find? ms "_deleted" ≠ some (.bool true) := by
  rw [Ne, ← deletes_iff, Bool.not_eq_true]

/-- Just the names of the store's own are taken out. -/
theorem content_eq_filter (ms : Members) : content ms = ms.filter (·.1 ∉ metadata) := by
  unfold content Keyed.erase
  rw [List.filter_filter, List.filter_filter]
  congr 1
  funext e
  by_cases hid : e.1 = "_id" <;> by_cases hrev : e.1 = "_rev" <;>
    by_cases hdel : e.1 = "_deleted" <;> simp [metadata, hid, hrev, hdel]

section Acceptance

/-- A document is live, a tombstone, or has never been there. -/
theorem admits_iff (hid : id ≠ securityId) :
    admits (s.stored db id) rev (deletes ms) = true ↔ Writable s db id rev ms := by
  have hrevision := revisionOf_eq s db id
  have hdocument : s.document db id = _ := document_of_ne hid
  cases hdoc : s.stored db id with
  | none =>
    rw [hdoc, Option.map_none] at hrevision
    rw [hdoc, Option.bind_none] at hdocument
    constructor
    · intro h
      obtain ⟨hrev, hkept⟩ := Bool.and_eq_true_iff.1 h
      rw [Option.isNone_iff_eq_none] at hrev
      rw [Bool.not_eq_true', deletes_eq_false_iff] at hkept
      exact .new hrevision hrev hkept
    · intro h
      cases h with
      | security h => exact absurd h hid
      | live found _ => cases hdocument.symm.trans found
      | tombstone _ left _ => cases hrevision.symm.trans left
      | new _ unnamed kept => rw [admits, unnamed, deletes_eq_false_iff.2 kept]; rfl
  | some doc =>
    rw [hdoc, Option.map_some] at hrevision
    rw [hdoc, Option.bind_some] at hdocument
    unfold admits
    cases hdel : doc.deleted with
    | true =>
      simp only [hdel, if_true] at hdocument ⊢
      constructor
      · intro h
        cases rev with
        | none => exact .tombstone hdocument hrevision (.inl rfl)
        | some r =>
          have hr : r = doc.rev := by simpa using h
          exact .tombstone hdocument hrevision (.inr (congrArg some hr))
      · intro h
        cases h with
        | security h => exact absurd h hid
        | live found _ => cases hdocument.symm.trans found
        | tombstone _ left current =>
          cases hrevision.symm.trans left
          rcases current with rfl | rfl <;> simp
        | new absent _ _ => cases hrevision.symm.trans absent
    | false =>
      simp only [hdel, Bool.false_eq_true, if_false] at hdocument ⊢
      rw [decide_eq_true_eq, ← hrevision]
      constructor
      · intro h
        exact .live hdocument h
      · intro h
        cases h with
        | security h => exact absurd h hid
        | live _ current => exact current
        | tombstone gone _ _ => cases hdocument.symm.trans gone
        | new absent _ _ => cases hrevision.symm.trans absent

theorem accepts_iff : s.accepts db id rev (deletes ms) = true ↔
    s.databaseExists db = true ∧ Writable s db id rev ms := by
  unfold accepts
  rw [Bool.and_eq_true, Bool.or_eq_true, decide_eq_true_eq]
  refine and_congr_right fun _ => ?_
  by_cases hid : id = securityId
  · exact ⟨fun _ => .security hid, fun _ => .inl hid⟩
  · rw [admits_iff hid]
    exact or_iff_right hid

theorem accepts_of_serve_insert (hq : s.Quiet) {r : Option String}
    (hok : (serve (.insert db id (.object ms) rev) s).1 = .ok r) :
    s.accepts db id rev (deletes ms) = true := by
  rw [serve_insert_eq hq, writeOrStay_eq] at hok
  split at hok
  · next hacc => exact hacc
  · cases hok

/-- An insertion goes through just where there is a database, an object and something to be written
over. -/
theorem serve_insert_ok_iff (hq : s.Quiet) {body : Json} :
    (∃ r, (serve (.insert db id body rev) s).1 = .ok r) ↔
      s.databaseExists db = true ∧ ∃ ms, body = .object ms ∧ Writable s db id rev ms := by
  constructor
  · rintro ⟨r, hr⟩
    cases body with
    | object ms =>
      obtain ⟨hex, h⟩ := accepts_iff.1 (accepts_of_serve_insert hq hr)
      exact ⟨hex, ms, rfl, h⟩
    | _ => cases hr
  · rintro ⟨hex, ms, rfl, h⟩
    rw [serve_insert_of_accepts hq (accepts_iff.2 ⟨hex, h⟩)]
    exact ⟨_, rfl⟩

end Acceptance

section Reading

theorem serve_get_eq (hq : s.Quiet) (db id : String) :
    serve (.get db id) s = get db id s := by
  rw [serve, faulty, hq.faults]
  rfl

theorem read_written_self (d : Database) (id : String) (ms : Members) :
    Database.read (Database.written d id ms) id =
      if id = securityId then .ok ⟨id, none, ms⟩
      else if deletes ms then .error (.notFound "deleted")
      else .ok ⟨id, some (successor (d.documents.find? id) ms).rev, content ms⟩ := by
  unfold Database.read Database.written
  by_cases hid : id = securityId
  · simp only [hid, if_true]
  · simp only [hid, if_false, Keyed.find?_put_self]
    rfl

theorem read_written_of_ne {other : String} (h : other ≠ id) (d : Database) (ms : Members) :
    Database.read (Database.written d id ms) other = Database.read d other := by
  unfold Database.read Database.written
  by_cases hid : id = securityId
  · have hother : other ≠ securityId := fun heq => h (heq.trans hid.symm)
    simp only [hid, hother, if_true, if_false]
  · simp only [hid, if_false, Keyed.find?_put_of_ne _ _ h]

theorem get_written_of_ne {db' id' : String} (h : (db', id') ≠ (db, id)) (s : MemoryStore)
    (ms : Members) : (get db' id' (s.written db id ms)).1 = (get db' id' s).1 := by
  unfold get
  by_cases hdb : db' = db
  · subst hdb
    have hid : id' ≠ id := fun heq => h (by rw [heq])
    cases hd : s.databases.find? db' with
    | none => simp only [written, hd]
    | some d =>
      rw [find?_written_self hd]
      exact read_written_of_ne hid d ms
  · rw [find?_written_of_ne hdb]
    cases s.databases.find? db' <;> rfl

end Reading

/-- Whatever was there before. -/
theorem readBack_written (hq : s.Quiet) (hex : s.databaseExists db = true) (id : String)
    (ms : Members) : ReadBack s (s.written db id ms) db id ms (s.writtenRev db id ms) := by
  obtain ⟨d, hd⟩ := exists_database hex
  have hget : (serve (.get db id) (s.written db id ms)).1 =
      Database.read (Database.written d id ms) id := by
    rw [serve_get_eq (quiet_written hq db id ms), get, find?_written_self hd]
  rw [read_written_self] at hget
  unfold writtenRev
  refine ⟨?_, fun hid => ?_, fun hid hdel => ?_, fun hid hkept => ?_, fun db' id' hne => ?_⟩
  · by_cases hid : id = securityId <;> simp [hid]
  · rw [hget, if_pos hid]
  · rw [hget, if_neg hid, if_pos (deletes_iff.2 hdel)]
  · have hlive : ¬ deletes ms = true := fun h => hkept (deletes_iff.1 h)
    rw [hget, if_neg hid, if_neg hlive, if_neg hid, stored_of_find? hd, content_eq_filter]
  · rw [serve_get_eq (quiet_written hq db id ms), serve_get_eq hq]
    exact get_written_of_ne hne s ms

/-- An insertion goes through exactly where its revision fits what is there. What it wrote is then
read back, and all other documents are read as before. -/
theorem insertion_read_back (hq : s.Quiet) (db id : String) (body : Json) (rev : Option String) :
    ((∃ r, (serve (.insert db id body rev) s).1 = .ok r) ↔
      s.databaseExists db = true ∧ ∃ ms, body = .object ms ∧ Writable s db id rev ms) ∧
    ∀ ms r, body = .object ms → (serve (.insert db id body rev) s).1 = .ok r →
      ReadBack s (serve (.insert db id body rev) s).2 db id ms r := by
  refine ⟨serve_insert_ok_iff hq, ?_⟩
  rintro ms r rfl hok
  have haccepts := accepts_of_serve_insert hq hok
  rw [serve_insert_of_accepts hq haccepts] at hok ⊢
  cases hok
  exact readBack_written hq (databaseExists_of_accepts haccepts) id ms

/-- A document has been deleted, and names of the store's own come with what is written over its
tombstone, one of them with a value of no use. -/
theorem insertion_read_back_revived :
    let made := (serve (.create "db") empty).2
    let live := (serve (.insert "db" "doc" (.object []) none) made).2
    let gone := (serve (.insert "db" "doc" (.object [("_deleted", .bool true)])
      (live.revisionOf "db" "doc")) live).2
    let ms : Members := [("_deleted", .string "no"), ("_id", .null), ("text", .string "back")]
    gone.Quiet ∧ Writable gone "db" "doc" none ms ∧
      ∃ r t, serve (.insert "db" "doc" (.object ms) none) gone = (.ok r, t) ∧
        ReadBack gone t "db" "doc" ms r ∧
        (serve (.get "db" "doc") t).1 = .ok ⟨"doc", r, [("text", .string "back")]⟩ := by
  intro made live gone ms
  have hq : gone.Quiet :=
    ⟨List.isEmpty_iff.1 (by decide +kernel), List.isEmpty_iff.1 (by decide +kernel)⟩
  obtain ⟨r, hr⟩ := Option.isSome_iff_exists.1
    (show (gone.revisionOf "db" "doc").isSome = true by decide +kernel)
  have hdoc : gone.document "db" "doc" = none := Option.isNone_iff_eq_none.1 (by decide +kernel)
  have hwritable : Writable gone "db" "doc" none ms := .tombstone hdoc hr (.inl rfl)
  have hex : gone.databaseExists "db" = true := by decide +kernel
  obtain ⟨hiff, hback⟩ := insertion_read_back hq "db" "doc" (.object ms) none
  obtain ⟨r, hok⟩ := hiff.2 ⟨hex, ms, rfl, hwritable⟩
  have h := hback ms r rfl hok
  exact ⟨hq, hwritable, r, _, Prod.ext hok rfl, h, h.kept (by decide) nofun⟩

end MemoryStore

end Permits
