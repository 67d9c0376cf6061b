import Permits.Proofs.Store.Calls
import Permits.Proofs.Store.History

namespace Permits

section Replay

variable {σ α : Type} {serve : Service σ}

/-- The state that a history of calls leads to. -/
def Service.replay (serve : Service σ) (s : σ) (h : List Event) : σ :=
  h.foldl (fun s e => (serve e.call s).2) s

theorem Service.replay_append_singleton (s : σ) (h : List Event) (e : Event) :
    serve.replay s (h ++ [e]) = (serve e.call (serve.replay s h)).2 := by
  rw [replay, List.foldl_append]
  rfl

end Replay

/-- A call that leaves a document alone, and the database that holds it. -/
def Elsewhere (db id : String) : StoreCall → Prop
  | .create _ => True
  | .destroy db' => db' ≠ db
  | .get _ _ => True
  | .insert db' id' _ _ => db' ≠ db ∨ id' ≠ id

namespace MemoryStore

variable {s : MemoryStore} {db id : String}

/-- What a call about something else does to a document and its database. -/
structure Spared (db id : String) (s s' : MemoryStore) : Prop where
  quiet : s'.Quiet
  exist : s'.databaseExists db = true
  stored : s'.stored db id = s.stored db id

theorem Spared.refl (hq : s.Quiet) (hex : s.databaseExists db = true) : Spared db id s s :=
  ⟨hq, hex, rfl⟩

theorem spared_of_find? {s' : MemoryStore} (hq : s'.Quiet) (hex : s.databaseExists db = true)
    (h : s'.databases.find? db = s.databases.find? db) : Spared db id s s' := by
  refine ⟨hq, ?_, ?_⟩
  · rw [← hex, databaseExists, databaseExists, Keyed.contains, Keyed.contains, h]
  · rw [MemoryStore.stored, MemoryStore.stored, h]

theorem spared_insert (hq : s.Quiet) (hex : s.databaseExists db = true) {db' id' : String}
    (h : db' ≠ db ∨ id' ≠ id) (body : Json) (rev : Option String) :
    Spared db id s (serve (.insert db' id' body rev) s).2 := by
  rcases serve_insert_cases db' id' body rev s with ⟨e, hrefused⟩ | ⟨ms, rfl⟩
  · rw [hrefused]
    exact .refl hq hex
  · rw [serve_insert_eq hq, writeOrStay_eq]
    split
    · by_cases hdb : db' = db
      · subst hdb
        have hid : id ≠ id' := fun hid => h.elim (· rfl) (· hid.symm)
        refine ⟨quiet_written hq .., ?_, stored_written_of_ne hid ..⟩
        rw [databaseExists_written]
        exact hex
      · exact spared_of_find? (quiet_written hq ..) hex (find?_written_of_ne (Ne.symm hdb) ..)
    · exact .refl hq hex

theorem spared_of_elsewhere (hq : s.Quiet) (hex : s.databaseExists db = true) {c : StoreCall}
    (hc : Elsewhere db id c) : Spared db id s (serve c s).2 := by
  cases c with
  | create db' =>
    rw [serve_create hq]
    split
    · exact .refl hq hex
    · next hnew =>
      have hdb : db ≠ db' := fun hdb => hnew (hdb ▸ hex)
      exact spared_of_find? (quiet_withDatabase hq db') hex (find?_withDatabase_of_ne hdb s)
  | destroy db' =>
    rw [serve_destroy hq]
    split
    · exact spared_of_find? ⟨hq.faults, hq.races⟩ hex (Keyed.find?_erase_of_ne _ (Ne.symm hc))
    · exact .refl hq hex
  | get db' id' =>
    rw [serve_get_state hq]
    exact .refl hq hex
  | insert db' id' body rev => exact spared_insert hq hex hc body rev

end MemoryStore

theorem wrote_of_elsewhere {db id : String} {c : StoreCall} (hc : Elsewhere db id c) (i : Nat)
    (answer : c.Answer) : Event.wrote db id ⟨i, c, answer⟩ = false := by
  cases c with
  | create db' => rfl
  | destroy db' => rfl
  | get db' id' => rfl
  | insert db' id' body rev =>
    cases answer with
    | error e => rfl
    | ok r =>
      simp only [Event.wrote, Bool.and_eq_false_iff, decide_eq_false_iff_not]
      exact hc

end Permits
