import Permits.Proofs.Store.Revisions

namespace Permits

def StoreCall.inserts : StoreCall → Bool
  | .insert .. => true
  | _ => false

namespace MemoryStore

/-- What happens to a store: a call, or something that is put in the way of later calls. -/
inductive Move where
  | call (c : StoreCall)
  | failNext (op : Operation) (e : StoreError)
  | raceNext (db id : String) (body : Json)

/-- A write that went through, with the revision that it assigned. -/
structure Entry where
  db : String
  id : String
  rev : Option String

/-- A store and all its writes in order, those of competitors among them. -/
structure Journal where
  store : MemoryStore
  entries : List Entry := []

def Move.apply : Move → MemoryStore → MemoryStore
  | .call c, s => (serve c s).2
  | .failNext op e, s => s.failNext op e
  | .raceNext db id body, s => s.raceNext db id body

/-- The move is a call that destroys the database. -/
def Move.destroys (db : String) : Move → MemoryStore → Bool
  | .call (.destroy db'), s => db' = db && (serve (.destroy db') s).1.isOk
  | _, _ => false

/-- The database is not destroyed along the moves. -/
def Survives (db : String) : List Move → MemoryStore → Prop
  | [], _ => True
  | m :: ms, s => m.destroys db s = false ∧ Survives db ms (m.apply s)

namespace Journal

def write (db id : String) (body : Members) (rev : Option String) (x : Journal) :
    Except StoreError (Option String × Journal) :=
  (x.store.write db id body rev).map fun (r, s) => (r, ⟨s, x.entries ++ [⟨db, id, r⟩]⟩)

def writeOrStay (db id : String) (body : Members) (rev : Option String) (x : Journal) :
    Except StoreError (Option String) × Journal :=
  match x.write db id body rev with
  | .ok (r, y) => (.ok r, y)
  | .error e => (.error e, x)

def insertRaced (db id : String) (body : Members) (rev : Option String) (x : Journal) :
    Except StoreError (Option String) × Journal :=
  match x.store.races.find? (·.1 = (db, id)) with
  | none => x.writeOrStay db id body rev
  | some (_, competing) =>
    let x := { x with store.races := x.store.races.filter (·.1 ≠ (db, id)) }
    match stamped none competing with
    | .error e => (.error e, x)
    | .ok rival =>
      match x.write db id rival (x.store.liveRevision db id) with
      | .error e => (.error e, x)
      | .ok (_, x) => x.writeOrStay db id body rev

def insert (db id : String) (body : Json) (rev : Option String) (x : Journal) :
    Except StoreError (Option String) × Journal :=
  match stamped none body with
  | .error e => (.error e, x)
  | .ok body =>
    match popFault .insert x.store.faults with
    | some (e, rest) => (.error e, { x with store.faults := rest })
    | none => x.insertRaced db id body rev

def serve : Service Journal
  | .insert db id body rev, x => x.insert db id body rev
  | c, x => ((MemoryStore.serve c x.store).1, { x with store := (MemoryStore.serve c x.store).2 })

def apply (x : Journal) : Move → Journal
  | .call c => (x.serve c).2
  | m => { x with store := m.apply x.store }

def run (ms : List Move) (x : Journal) : Journal := ms.foldl apply x

/-- The revisions that the writes of a document assigned, in order. -/
def tokens (x : Journal) (db id : String) : List String :=
  (x.entries.filter fun e => e.db = db && e.id = id).filterMap (·.rev)

variable {x y : Journal} {db id : String} {body : Members} {rev r : Option String}

section Store

theorem writeOrStay_store (db id : String) (body : Members) (rev : Option String) (x : Journal) :
    (x.writeOrStay db id body rev).1 = (x.store.writeOrStay db id body rev).1 ∧
      (x.writeOrStay db id body rev).2.store = (x.store.writeOrStay db id body rev).2 := by
  cases hw : x.store.write db id body rev with
  | error e => simp [writeOrStay, write, MemoryStore.writeOrStay, hw, Except.map]
  | ok result => simp [writeOrStay, write, MemoryStore.writeOrStay, hw, Except.map]

theorem insertRaced_store (db id : String) (body : Members) (rev : Option String) (x : Journal) :
    (x.insertRaced db id body rev).1 = (x.store.insertRaced db id body rev).1 ∧
      (x.insertRaced db id body rev).2.store = (x.store.insertRaced db id body rev).2 := by
  unfold insertRaced MemoryStore.insertRaced
  cases x.store.races.find? (·.1 = (db, id)) with
  | none => exact writeOrStay_store db id body rev x
  | some race =>
    dsimp only
    cases stamped none race.2 with
    | error e => exact ⟨rfl, rfl⟩
    | ok rival =>
      dsimp only [write]
      generalize MemoryStore.write db id rival _ _ = written
      cases written with
      | error e => exact ⟨rfl, rfl⟩
      | ok result => exact writeOrStay_store db id body rev _

theorem serve_store (c : StoreCall) (x : Journal) :
    (x.serve c).1 = (MemoryStore.serve c x.store).1 ∧
      (x.serve c).2.store = (MemoryStore.serve c x.store).2 := by
  cases c with
  | create db => exact ⟨rfl, rfl⟩
  | destroy db => exact ⟨rfl, rfl⟩
  | get db id => exact ⟨rfl, rfl⟩
  | insert db id body rev =>
    simp only [serve, insert, MemoryStore.serve, MemoryStore.insert]
    cases stamped none body with
    | error e => exact ⟨rfl, rfl⟩
    | ok ms =>
      simp only [faulty]
      cases popFault .insert x.store.faults with
      | none => exact insertRaced_store db id ms rev x
      | some fault => exact ⟨rfl, rfl⟩

theorem apply_store (m : Move) (x : Journal) : (x.apply m).store = m.apply x.store := by
  cases m with
  | call c => exact (serve_store c x).2
  | failNext op e => rfl
  | raceNext db id body => rfl

end Store

/-- What holds of a journal whatever its store is made to wait for, and whatever is written. -/
structure Steady (inv : Journal → Prop) : Prop where
  waiting : ∀ x faults races, inv x →
    inv { x with store.faults := faults, store.races := races }
  written : ∀ x db id body rev r y, x.write db id body rev = .ok (r, y) → inv x → inv y

theorem Steady.writeOrStay {inv : Journal → Prop} (hinv : Steady inv) (h : inv x)
    (db id : String) (body : Members) (rev : Option String) :
    inv (x.writeOrStay db id body rev).2 := by
  unfold Journal.writeOrStay
  split
  · next r y hw => exact hinv.written x db id body rev r y hw h
  · exact h

theorem Steady.insertRaced {inv : Journal → Prop} (hinv : Steady inv) (h : inv x)
    (db id : String) (body : Members) (rev : Option String) :
    inv (x.insertRaced db id body rev).2 := by
  unfold Journal.insertRaced
  split
  · exact hinv.writeOrStay h db id body rev
  · next competing _ =>
    have hwaiting := hinv.waiting x x.store.faults (x.store.races.filter (·.1 ≠ (db, id))) h
    dsimp only
    split
    · exact hwaiting
    · next rival _ =>
      split
      · exact hwaiting
      · next r y hw =>
        exact hinv.writeOrStay (hinv.written _ db id rival _ r y hw hwaiting) db id body rev

theorem write_eq_ok (h : x.write db id body rev = .ok (r, y)) :
    x.store.accepts db id rev (deletes body) = true ∧ r = x.store.writtenRev db id body ∧
      y = ⟨x.store.written db id body, x.entries ++ [⟨db, id, r⟩]⟩ := by
  unfold write at h
  cases hw : x.store.write db id body rev with
  | error e =>
    rw [hw] at h
    cases h
  | ok result =>
    rw [hw] at h
    cases h
    obtain ⟨hacc, hrev, hstore⟩ := MemoryStore.write_eq_ok hw
    exact ⟨hacc, hrev, by rw [hstore]⟩

theorem write_of_writeOrStay (hok : (x.writeOrStay db id body rev).1 = .ok r) :
    x.write db id body rev = .ok (r, (x.writeOrStay db id body rev).2) := by
  unfold Journal.writeOrStay at hok ⊢
  split at hok
  · next q y hw =>
    cases hok
    rw [hw]
  · cases hok

theorem Steady.write_of_insertRaced {inv : Journal → Prop} (hinv : Steady inv) (h : inv x)
    (hok : (x.insertRaced db id body rev).1 = .ok r) :
    ∃ y, inv y ∧ y.write db id body rev = .ok (r, (x.insertRaced db id body rev).2) := by
  unfold Journal.insertRaced at hok ⊢
  split at hok
  · exact ⟨x, h, write_of_writeOrStay hok⟩
  · next competing hrace =>
    have hwaiting := hinv.waiting x x.store.faults (x.store.races.filter (·.1 ≠ (db, id))) h
    dsimp only at hok ⊢
    split at hok
    · cases hok
    · next rival hrival =>
      split at hok
      · cases hok
      · next q y hw =>
        exact ⟨y, hinv.written _ db id rival _ q y hw hwaiting, write_of_writeOrStay hok⟩

/-- An insertion that succeeds writes last of all, on the store that it meets. -/
theorem Steady.write_of_insert {inv : Journal → Prop} (hinv : Steady inv) (h : inv x)
    {body : Json} (hok : (x.serve (.insert db id body rev)).1 = .ok r) :
    ∃ y ms, inv y ∧ y.write db id ms rev = .ok (r, (x.serve (.insert db id body rev)).2) := by
  simp only [serve, insert] at hok ⊢
  split at hok
  · cases hok
  · next ms hbody =>
    split at hok
    · cases hok
    · obtain ⟨y, hy, hw⟩ := hinv.write_of_insertRaced h hok
      exact ⟨y, ms, hy, hw⟩

theorem tokens_append (x : Journal) (s : MemoryStore) (db id db' id' : String) (r : Option String) :
    (⟨s, x.entries ++ [⟨db', id', r⟩]⟩ : Journal).tokens db id =
      x.tokens db id ++ if db' = db ∧ id' = id then r.toList else [] := by
  by_cases h : db' = db ∧ id' = id <;> cases r <;> simp [tokens, List.filter_append, h]

/-- The versions of a document of a database that has no others from before. -/
structure Numbered (db id : String) (x : Journal) : Prop where
  exist : x.store.databaseExists db = true
  numbers : (x.tokens db id).map revisionNumber = List.range' 1 (x.tokens db id).length
  latest : (x.tokens db id).getLast? = x.store.revisionOf db id
  generation : x.store.generation db id = (x.tokens db id).length

theorem Numbered.congr (h : Numbered db id x) (hex : y.store.databaseExists db = true)
    (hstored : y.store.stored db id = x.store.stored db id)
    (htokens : y.tokens db id = x.tokens db id) : Numbered db id y := by
  refine ⟨hex, ?_, ?_, ?_⟩
  · rw [htokens]
    exact h.numbers
  · rw [htokens, h.latest, revisionOf_eq, revisionOf_eq, hstored]
  · rw [htokens, ← h.generation, MemoryStore.generation, MemoryStore.generation, hstored]

theorem steady_numbered (hid : id ≠ securityId) : Steady (Numbered db id) := by
  constructor
  · intro x faults races h
    exact h.congr h.exist rfl rfl
  · intro x db' id' body rev r y hw h
    obtain ⟨-, hrev, rfl⟩ := write_eq_ok hw
    have hex : (x.store.written db' id' body).databaseExists db = true := by
      rw [databaseExists_written]
      exact h.exist
    by_cases hdoc : db' = db ∧ id' = id
    -- the document itself: its generation goes up by one, and the new revision begins with it
    · obtain ⟨rfl, rfl⟩ := hdoc
      have hstored := stored_written_self h.exist hid body
      have htokens := tokens_append x (x.store.written db' id' body) db' id' db' id' r
      rw [if_pos ⟨rfl, rfl⟩, hrev, writtenRev, if_neg hid, Option.toList_some] at htokens
      have hnumber : revisionNumber (successor (x.store.stored db' id') body).rev =
          (x.tokens db' id').length + 1 := by
        rw [← h.generation]
        exact revisionNumber_revision ..
      rw [writtenRev, if_neg hid] at hrev
      subst hrev
      refine ⟨hex, ?_, ?_, ?_⟩
      · rw [htokens, List.map_append, h.numbers, List.length_append, List.length_singleton,
          List.range'_concat, List.map_singleton, hnumber, Nat.one_mul, Nat.add_comm]
      · rw [htokens, List.getLast?_concat, revisionOf_eq, hstored]
        rfl
      · rw [htokens, List.length_append, MemoryStore.generation, hstored, ← h.generation]
        rfl
    · apply h.congr hex
      · by_cases hdb : db' = db
        · subst hdb
          exact stored_written_of_ne (fun hid => hdoc ⟨rfl, hid.symm⟩) ..
        · rw [stored, stored, find?_written_of_ne (Ne.symm hdb)]
      · rw [tokens_append, if_neg hdoc, List.append_nil]

theorem Steady.insert {inv : Journal → Prop} (hinv : Steady inv) (h : inv x) (db id : String)
    (body : Json) (rev : Option String) : inv (x.serve (.insert db id body rev)).2 := by
  simp only [serve, Journal.insert]
  split
  · exact h
  · next ms _ =>
    split
    · next rest _ => exact hinv.waiting x rest x.store.races h
    · exact hinv.insertRaced h db id ms rev

end Journal

variable {s : MemoryStore} {db id : String}

theorem faulty_cases {α : Type} (op : Operation) (s : MemoryStore)
    (call : MemoryStore → Except StoreError α × MemoryStore) :
    (∃ e rest, faulty op s call = (.error e, { s with faults := rest })) ∨
      faulty op s call = call s := by
  unfold faulty
  split
  · exact .inl ⟨_, _, rfl⟩
  · exact .inr rfl

/-- What a call other than an insertion can do: it uses up a failure, or makes or destroys a
database, or changes nothing. -/
theorem serve_cases {c : StoreCall} (hinsert : c.inserts = false) :
    (∃ rest, (serve c s).2 = { s with faults := rest }) ∨
      (∃ db, s.databaseExists db = false ∧ (serve c s).2 = s.withDatabase db) ∨
      ∃ db, (Move.call c).destroys db s = true ∧
        (serve c s).2 = { s with databases := s.databases.erase db } := by
  cases c with
  | create db =>
    rcases faulty_cases .create s (create db) with ⟨e, rest, h⟩ | h
    · exact .inl ⟨rest, by rw [serve, h]⟩
    · rw [serve, h, create]
      split
      · exact .inl ⟨s.faults, rfl⟩
      · next hnew => exact .inr (.inl ⟨db, eq_false_of_ne_true hnew, rfl⟩)
  | destroy db =>
    rcases faulty_cases .destroy s (destroy db) with ⟨e, rest, h⟩ | h
    · exact .inl ⟨rest, by rw [serve, h]⟩
    · cases hold : s.databases.contains db with
      | false => exact .inl ⟨s.faults, by simp [serve, h, destroy, hold]⟩
      | true =>
        refine .inr (.inr ⟨db, ?_, by simp [serve, h, destroy, hold]⟩)
        simp [Move.destroys, serve, h, destroy, hold, Except.isOk, Except.toBool]
  | get db id =>
    rcases faulty_cases .get s (get db id) with ⟨e, rest, h⟩ | h
    · exact .inl ⟨rest, by rw [serve, h]⟩
    · rw [serve, h, get]
      split <;> exact .inl ⟨s.faults, rfl⟩
  | insert db id body rev => cases hinsert

/-- A call other than an insertion leaves a database as it was, unless it destroys it. -/
theorem find?_serve (hex : s.databaseExists db = true) {c : StoreCall}
    (hc : (Move.call c).destroys db s = false) (hinsert : c.inserts = false) :
    (serve c s).2.databases.find? db = s.databases.find? db := by
  rcases serve_cases (s := s) hinsert with ⟨rest, h⟩ | ⟨db', hnew, h⟩ | ⟨db', hgone, h⟩
  · rw [h]
  · have hdb : db ≠ db' := by
      rintro rfl
      rw [hex] at hnew
      cases hnew
    rw [h]
    exact find?_withDatabase_of_ne hdb s
  · have hdb : db ≠ db' := by
      rintro rfl
      rw [hc] at hgone
      cases hgone
    rw [h]
    exact Keyed.find?_erase_of_ne _ hdb

theorem writes_serve {c : StoreCall} (hinsert : c.inserts = false) :
    (serve c s).2.writes = s.writes := by
  rcases serve_cases (s := s) hinsert with ⟨rest, h⟩ | ⟨db, -, h⟩ | ⟨db, -, h⟩ <;>
    simp [h, withDatabase]

namespace Journal

variable {x : Journal}

theorem steady_counted (n : Nat) : Steady fun x => x.store.writes = n + x.entries.length := by
  constructor
  · exact fun x faults races h => h
  · intro x db id body rev r y hw h
    obtain ⟨hacc, -, rfl⟩ := write_eq_ok hw
    have hex := databaseExists_of_accepts hacc
    simp only [writes_written hex, h, List.length_append, List.length_singleton, Nat.add_assoc]

/-- Every write that the store counts has its entry. -/
theorem counted_apply {n : Nat} (h : x.store.writes = n + x.entries.length) (m : Move) :
    (x.apply m).store.writes = n + (x.apply m).entries.length := by
  cases m with
  | failNext op e => exact h
  | raceNext db id body => exact h
  | call c =>
    cases c with
    | insert db id body rev => exact (steady_counted n).insert h db id body rev
    | create db => exact (writes_serve rfl).trans h
    | destroy db => exact (writes_serve rfl).trans h
    | get db id => exact (writes_serve rfl).trans h

theorem Numbered.apply (hid : id ≠ securityId) (h : Numbered db id x) {m : Move}
    (hm : m.destroys db x.store = false) : Numbered db id (x.apply m) := by
  have haside {c : StoreCall} (hc : (Move.call c).destroys db x.store = false)
      (hinsert : c.inserts = false) :
      Numbered db id { x with store := (MemoryStore.serve c x.store).2 } := by
    have hfind := find?_serve h.exist hc hinsert
    refine h.congr ?_ ?_ rfl
    · rw [← h.exist, databaseExists, databaseExists, Keyed.contains, Keyed.contains, hfind]
    · rw [stored, stored, hfind]
  cases m with
  | failNext op e => exact h.congr h.exist rfl rfl
  | raceNext db' id' body => exact h.congr h.exist rfl rfl
  | call c =>
    cases c with
    | insert db' id' body rev => exact (steady_numbered hid).insert h db' id' body rev
    | create db' => exact haside hm rfl
    | destroy db' => exact haside hm rfl
    | get db' id' => exact haside hm rfl

/-- A database that has just been made has no documents. -/
theorem numbered_create (made : (MemoryStore.serve (.create db) s).1 = .ok ()) (id : String) :
    Numbered db id ⟨(MemoryStore.serve (.create db) s).2, []⟩ := by
  rcases faulty_cases .create s (create db) with ⟨e, rest, h⟩ | h
  · rw [MemoryStore.serve, h] at made
    cases made
  · rw [MemoryStore.serve, h, create] at made ⊢
    split at made
    · cases made
    · next hnew =>
      rw [if_neg hnew]
      have hstored : ({ s with databases := s.databases.put db {} } : MemoryStore).stored db id =
          none := by
        simp [stored]
      refine ⟨databaseExists_withDatabase s db, rfl, ?_, ?_⟩
      · rw [revisionOf_eq, hstored]
        rfl
      · rw [MemoryStore.generation, hstored]
        rfl

/-- Along the moves each counted write is an entry, and the store is that of the plain moves. -/
theorem run_store (ms : List Move) {n : Nat} (h : x.store.writes = n + x.entries.length) :
    (x.run ms).store = ms.foldl (fun s m => m.apply s) x.store ∧
      (x.run ms).store.writes = n + (x.run ms).entries.length := by
  induction ms generalizing x with
  | nil => exact ⟨rfl, h⟩
  | cons m ms ih =>
    obtain ⟨hstore, hcount⟩ := ih (counted_apply h m)
    refine ⟨?_, hcount⟩
    rw [List.foldl_cons, ← apply_store]
    exact hstore

theorem Numbered.run (hid : id ≠ securityId) (h : Numbered db id x) {ms : List Move}
    (survives : Survives db ms x.store) : Numbered db id (x.run ms) := by
  induction ms generalizing x with
  | nil => exact h
  | cons m ms ih =>
    obtain ⟨hm, hrest⟩ := survives
    rw [← apply_store] at hrest
    exact ih (h.apply hid hm) hrest

theorem Numbered.nodup (h : Numbered db id x) : (x.tokens db id).Nodup := by
  have hnumbers : ((x.tokens db id).map revisionNumber).Nodup := by
    rw [h.numbers]
    exact List.nodup_range'
  apply (List.pairwise_map.1 hnumbers).imp
  intro r q hne heq
  exact hne (congrArg revisionNumber heq)

/-- The revisions of a document tell its versions apart, and a write over one of them is accepted
only if it is the last. -/
structure NeverReused (db id : String) (x : Journal) : Prop where
  distinct : (x.tokens db id).Nodup
  numbers : (x.tokens db id).map revisionNumber = List.range' 1 (x.tokens db id).length
  /-- A competitor of the insertion writes before it. -/
  latest : ∀ body r answer,
    (MemoryStore.serve (.insert db id body (some r)) x.store).1 = .ok answer →
    ∃ before new, answer = some new ∧
      (x.apply (.call (.insert db id body (some r)))).tokens db id = before ++ [new] ∧
      x.tokens db id <+: before ∧ before.getLast? = some r
  superseded : ∀ body r, r ∈ x.tokens db id → (x.tokens db id).getLast? ≠ some r →
    ∃ e, (MemoryStore.serve (.insert db id body (some r)) x.store).1 = .error e

/-- An insertion that succeeds over a revision finds it to be the last one assigned. -/
theorem Numbered.accepted (hid : id ≠ securityId) (h : Numbered db id x) {body : Json} {r : String}
    {answer : Option String}
    (hok : (MemoryStore.serve (.insert db id body (some r)) x.store).1 = .ok answer) :
    ∃ y new, Numbered db id y ∧ answer = some new ∧
      (x.apply (.call (.insert db id body (some r)))).tokens db id = y.tokens db id ++ [new] ∧
      x.tokens db id <+: y.tokens db id ∧ (y.tokens db id).getLast? = some r := by
  have hsteady : Steady fun y => Numbered db id y ∧ x.tokens db id <+: y.tokens db id := by
    constructor
    · exact fun y faults races hy => ⟨(steady_numbered hid).waiting y faults races hy.1, hy.2⟩
    · intro y db' id' ms rev r z hw hy
      refine ⟨(steady_numbered hid).written y db' id' ms rev r z hw hy.1, ?_⟩
      obtain ⟨-, -, rfl⟩ := write_eq_ok hw
      rw [tokens_append]
      exact hy.2.trans (List.prefix_append _ _)
  rw [← (serve_store _ x).1] at hok
  obtain ⟨y, ms, ⟨hy, hbefore⟩, hw⟩ := hsteady.write_of_insert ⟨h, List.prefix_rfl⟩ hok
  obtain ⟨hacc, hrev, hend⟩ := write_eq_ok hw
  obtain ⟨doc, hdoc, hr⟩ := stored_of_accepts hid hacc
  rw [writtenRev, if_neg hid] at hrev
  refine ⟨y, _, hy, hrev, ?_, hbefore, ?_⟩
  · rw [Journal.apply, hend, tokens_append, if_pos ⟨rfl, rfl⟩, hrev]
    rfl
  · rw [hy.latest, revisionOf_eq, hdoc, Option.map_some, hr]

theorem Numbered.superseded (hid : id ≠ securityId) (h : Numbered db id x) (body : Json)
    {r : String} (hr : r ∈ x.tokens db id) (hold : (x.tokens db id).getLast? ≠ some r) :
    ∃ e, (MemoryStore.serve (.insert db id body (some r)) x.store).1 = .error e := by
  cases hok : (MemoryStore.serve (.insert db id body (some r)) x.store).1 with
  | error e => exact ⟨e, rfl⟩
  | ok answer =>
    -- the revision would be assigned twice: before the insertion, and last of all
    obtain ⟨y, new, hy, -, -, ⟨later, hlater⟩, hlast⟩ := h.accepted hid hok
    rw [← hlater] at hlast
    have hnodup := hy.nodup
    rw [← hlater] at hnodup
    rcases List.eq_nil_or_concat later with rfl | ⟨front, q, rfl⟩
    · rw [List.append_nil] at hlast
      exact absurd hlast hold
    · rw [List.concat_eq_append, ← List.append_assoc, List.getLast?_concat] at hlast
      cases hlast
      exact absurd rfl ((List.nodup_append.1 hnodup).2.2 _ hr _ (by simp))

/-- From the creation of a database on and as long as it is not destroyed, whatever is called and
put in the way, the revisions of its documents count their versions, and none is accepted once
another has followed it. The journal of the run has every write that the store counts. -/
theorem tokens_never_reused (hid : id ≠ securityId)
    (made : (MemoryStore.serve (.create db) s).1 = .ok ()) {ms : List Move}
    (survives : Survives db ms (MemoryStore.serve (.create db) s).2) :
    let new := (MemoryStore.serve (.create db) s).2
    let x := Journal.run ms ⟨new, []⟩
    x.store = ms.foldl (fun s m => m.apply s) new ∧
      x.store.writes = new.writes + x.entries.length ∧ NeverReused db id x := by
  intro new x
  obtain ⟨hstore, hcount⟩ := run_store (x := ⟨new, []⟩) (n := new.writes) ms rfl
  have h : Numbered db id x := (numbered_create made id).run hid survives
  refine ⟨hstore, hcount, h.nodup, h.numbers, fun body r answer hok => ?_, fun body r hr hold =>
    h.superseded hid body hr hold⟩
  obtain ⟨y, new, -, hnew, htokens, hbefore, hlast⟩ := h.accepted hid hok
  exact ⟨_, new, hnew, htokens, hbefore, hlast⟩

/-- A document is written, deleted by a competitor, and made again with the body that it had. -/
def remade : List Move :=
  [.call (.insert "db" "doc" (.object []) none),
   .raceNext "db" "doc" (.object [("_deleted", .bool true)]),
   .call (.insert "db" "doc" (.object []) none)]

theorem tokens_never_reused_remade :
    "doc" ≠ securityId ∧ (MemoryStore.serve (.create "db") empty).1 = .ok () ∧
      Survives "db" remade (MemoryStore.serve (.create "db") empty).2 ∧
      (let new := (MemoryStore.serve (.create "db") empty).2
       let x := Journal.run remade ⟨new, []⟩
       x.store = remade.foldl (fun s m => m.apply s) new ∧
         x.store.writes = new.writes + x.entries.length ∧ NeverReused "db" "doc" x) ∧
      ((Journal.run remade ⟨(MemoryStore.serve (.create "db") empty).2, []⟩).tokens
        "db" "doc").length = 3 := by
  have hid : "doc" ≠ securityId := by decide
  have survives : Survives "db" remade (MemoryStore.serve (.create "db") empty).2 :=
    ⟨rfl, rfl, rfl, trivial⟩
  exact ⟨hid, rfl, survives, tokens_never_reused hid rfl survives, by decide +kernel⟩

end Journal

end MemoryStore

end Permits
