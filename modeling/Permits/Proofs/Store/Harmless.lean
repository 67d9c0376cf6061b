import Permits.Proofs.Store.Reachable

namespace Permits

namespace MemoryStore

/-- A competing write has changed just one document. -/
structure Overtaken (db id : String) (rival : Members) (s t : MemoryStore) : Prop where
  versioned : id ≠ securityId
  stored : t.stored db id = some (successor (s.stored db id) rival)
  changed : t.stored db id ≠ s.stored db id
  siblings : ∀ other, other ≠ id → t.stored db other = s.stored db other
  security : t.document db securityId = s.document db securityId
  databases : ∀ other, other ≠ db → t.databases.find? other = s.databases.find? other
  exist : ∀ other, t.databaseExists other = s.databaseExists other
  writes : t.writes = s.writes + 1

/-- All that a call may have done to the store when it fails. -/
structure Harmless (c : StoreCall) (s t : MemoryStore) : Prop where
  data : t.databases = s.databases ∧ t.writes = s.writes ∨
    ∃ db id body rev rival, c = .insert db id body rev ∧ ((db, id), .object rival) ∈ s.races ∧
      Overtaken db id rival s t
  faults : t.faults = s.faults ∨ ∃ before e after,
    s.faults = before ++ (c.operation, e) :: after ∧ t.faults = before ++ after
  races : t.races = s.races ∨ ∃ db id body rev rival before after, c = .insert db id body rev ∧
    s.races = before ++ ((db, id), rival) :: after ∧ t.races = before ++ after

variable {s t : MemoryStore} {db id : String} {ms : Members} {rev : Option String}
  {answer : Except StoreError (Option String)}

section Races

/-- An entry whose name stands once is all that a filter by that name takes out. -/
theorem exists_filter_ne_eq {α β : Type} [DecidableEq α] {xs : List (α × β)} {k : α} {v : β}
    (h : (xs.map (·.1)).Nodup) (hmem : (k, v) ∈ xs) :
    ∃ before after, xs = before ++ (k, v) :: after ∧ xs.filter (·.1 ≠ k) = before ++ after := by
  obtain ⟨before, after, rfl⟩ := List.append_of_mem hmem
  rw [List.map_append, List.map_cons, List.nodup_append, List.nodup_cons] at h
  obtain ⟨-, ⟨hafter, -⟩, hbefore⟩ := h
  have hkeep : ∀ ys : List (α × β), k ∉ ys.map (·.1) → ys.filter (·.1 ≠ k) = ys := by
    intro ys hys
    apply List.filter_eq_self.2
    intro e he
    have hne : e.1 ≠ k := fun heq => hys (heq ▸ List.mem_map_of_mem he)
    exact decide_eq_true hne
  have hfront : k ∉ before.map (·.1) := fun hk => hbefore k hk k List.mem_cons_self rfl
  refine ⟨before, after, rfl, ?_⟩
  rw [List.filter_append, List.filter_cons_of_neg (by simp), hkeep _ hfront, hkeep _ hafter]

theorem races_written (s : MemoryStore) (db id : String) (ms : Members) :
    (s.written db id ms).races = s.races := by
  unfold written
  split <;> rfl

theorem faults_written (s : MemoryStore) (db id : String) (ms : Members) :
    (s.written db id ms).faults = s.faults := by
  unfold written
  split <;> rfl

theorem Attempt.races (h : Attempt db id ms rev s answer t) : t.races = s.races := by
  cases h with
  | taken _ => exact races_written s db id ms
  | refused _ _ => rfl

theorem Attempt.faults (h : Attempt db id ms rev s answer t) : t.faults = s.faults := by
  cases h with
  | taken _ => exact faults_written s db id ms
  | refused _ _ => rfl

theorem Delivered.races {op : Operation} {e : StoreError} (h : Delivered op e s t) :
    t.races = s.races := by
  obtain ⟨before, after, -, -, rfl⟩ := h
  rfl

/-- An insertion uses up what waits for its document. -/
theorem Insertion.races (h : Insertion db id ms rev s answer t) :
    t.races = s.races ∨ t.races = (s.unrivalled db id).races := by
  cases h with
  | faulted failure => exact .inl failure.races
  | alone _ _ own => exact .inl own.races
  | spoiled _ _ _ _ => exact .inr rfl
  | overtaken _ _ _ own => exact .inr (own.races.trans (races_written ..))

theorem races_faulty {α : Type} (op : Operation)
    {call : MemoryStore → Except StoreError α × MemoryStore} (h : (call s).2.races = s.races) :
    (faulty op s call).2.races = s.races := by
  rcases faulty_delivered op s call with ⟨e, t, hfailure, hcall⟩ | ⟨-, hcall⟩
  · rw [hcall]
    exact hfailure.races
  · rw [hcall]
    exact h

theorem races_serve (c : StoreCall) (s : MemoryStore) :
    (serve c s).2.races = s.races ∨ ∃ db id, (serve c s).2.races = (s.unrivalled db id).races := by
  cases c with
  | create db =>
    refine .inl (races_faulty .create ?_)
    unfold create
    split <;> rfl
  | destroy db =>
    refine .inl (races_faulty .destroy ?_)
    unfold destroy
    split <;> rfl
  | get db id =>
    refine .inl (races_faulty .get ?_)
    unfold get
    split <;> rfl
  | insert db id body rev =>
    rcases serve_insert_cases db id body rev s with ⟨e, h⟩ | ⟨ms, rfl⟩
    · rw [h]
      exact .inl rfl
    · exact (insertion_serve db id ms rev s).races.imp_right fun h => ⟨db, id, h⟩

/-- At most one competing write waits for a document. -/
theorem nodup_races (h : Reachable s) : (s.races.map (·.1)).Nodup := by
  induction h with
  | empty => exact List.nodup_nil
  | @call s c _ ih =>
    rcases races_serve c s with hraces | ⟨db, id, hraces⟩
    · rw [hraces]
      exact ih
    · rw [hraces]
      exact ih.sublist (List.filter_sublist.map _)
  | failNext op e _ ih => exact ih
  | @raceNext s db id body _ ih =>
    have hnodup : ((s.races.filter (·.1 ≠ (db, id))).map (·.1)).Nodup :=
      ih.sublist (List.filter_sublist.map _)
    have hnew : (db, id) ∉ (s.races.filter (·.1 ≠ (db, id))).map (·.1) := by
      intro hmem
      obtain ⟨race, hrace, hkey⟩ := List.mem_map.1 hmem
      exact of_decide_eq_true (List.mem_filter.1 hrace).2 hkey
    show ((s.races.filter (·.1 ≠ (db, id)) ++ [((db, id), body)]).map (·.1)).Nodup
    rw [List.map_append, List.nodup_append]
    refine ⟨hnodup, List.pairwise_singleton .., ?_⟩
    intro key hkey other hother heq
    rw [List.map_singleton, List.mem_singleton] at hother
    rw [heq, hother] at hkey
    exact hnew hkey

end Races

section Failures

theorem harmless_refl (c : StoreCall) (s : MemoryStore) : Harmless c s s :=
  ⟨.inl ⟨rfl, rfl⟩, .inl rfl, .inl rfl⟩

theorem harmless_of_delivered {c : StoreCall} {e : StoreError} (h : Delivered c.operation e s t) :
    Harmless c s t := by
  obtain ⟨before, after, hfaults, -, rfl⟩ := h
  exact ⟨.inl ⟨rfl, rfl⟩, .inr ⟨before, e, after, hfaults, rfl⟩, .inl rfl⟩

theorem harmless_of_faulty {α : Type} {c : StoreCall}
    {call : MemoryStore → Except StoreError α × MemoryStore} {e : StoreError}
    (hfail : (faulty c.operation s call).1 = .error e)
    (hcall : (call s).1 = .error e → Harmless c s (call s).2) :
    Harmless c s (faulty c.operation s call).2 := by
  rcases faulty_delivered c.operation s call with ⟨e', t, hfailure, h⟩ | ⟨-, h⟩
  · rw [h]
    exact harmless_of_delivered hfailure
  · rw [h] at hfail ⊢
    exact hcall hfail

theorem harmless_unrivalled (h : Reachable s) {competing : Json}
    (hwaiting : ((db, id), competing) ∈ s.races) (body : Json) (rev : Option String) :
    Harmless (.insert db id body rev) s (s.unrivalled db id) := by
  obtain ⟨before, after, hraces, hleft⟩ := exists_filter_ne_eq (nodup_races h) hwaiting
  exact ⟨.inl ⟨rfl, rfl⟩, .inl rfl,
    .inr ⟨db, id, body, rev, competing, before, after, rfl, hraces, hleft⟩⟩

theorem successor_ne (current : Option Stored) (ms : Members) :
    some (successor current ms) ≠ current := by
  intro h
  have hgeneration := congrArg (fun doc : Option Stored => (doc.map (·.generation)).getD 0) h
  simp only [Option.map_some, Option.getD_some, successor] at hgeneration
  omega

/-- The competitor that waits for a document has been let ahead. -/
theorem overtaken_written (hex : s.databaseExists db = true) (hid : id ≠ securityId)
    (rival : Members) : Overtaken db id rival s ((s.unrivalled db id).written db id rival) := by
  have hstored : ((s.unrivalled db id).written db id rival).stored db id =
      some (successor (s.stored db id) rival) :=
    stored_written_self (s := s.unrivalled db id) hex hid rival
  constructor
  · exact hid
  · exact hstored
  · rw [hstored]
    exact successor_ne _ rival
  · intro other h
    exact stored_written_of_ne h (s.unrivalled db id) db rival
  · exact document_written_of_ne (Ne.symm hid) (s.unrivalled db id) db rival
  · intro other h
    exact find?_written_of_ne h id rival
  · intro other
    exact databaseExists_written (s.unrivalled db id) db id rival other
  · exact writes_written (s := s.unrivalled db id) hex id rival

theorem harmless_of_insertion (h : Reachable s) {e : StoreError}
    (hfail : Insertion db id ms rev s (.error e) t) :
    Harmless (.insert db id (.object ms) rev) s t := by
  cases hfail with
  | faulted failure => exact harmless_of_delivered failure
  | alone _ _ own =>
    cases own with
    | refused _ _ => exact harmless_refl _ s
  | spoiled _ _ waiting _ => exact harmless_unrivalled h waiting _ rev
  | @overtaken rival _ _ _ waiting ahead own =>
    cases own with
    | refused _ turned =>
      have hex := databaseExists_of_accepts ahead
      have hid := ne_securityId_of_refused ahead turned
      obtain ⟨-, -, hraces⟩ := harmless_unrivalled h waiting (.object ms) rev
      refine ⟨.inr ⟨db, id, .object ms, rev, rival, rfl, waiting, overtaken_written hex hid rival⟩,
        .inl (faults_written ..), ?_⟩
      rw [races_written]
      exact hraces

/-- A call that fails leaves the data alone, unless it is an insertion that a competitor got ahead
of: then the document of the competitor has changed, and nothing else. Of what is put in the way it
uses up no more than one failure for its own kind of call and the competing write for its own
document. -/
theorem failed_call_harmless (h : Reachable s) {c : StoreCall} {e : StoreError}
    (hfail : (serve c s).1 = c.refused e) : Harmless c s (serve c s).2 := by
  cases c with
  | create db =>
    refine harmless_of_faulty hfail fun herror => ?_
    unfold create at herror ⊢
    by_cases hold : s.databases.contains db = true
    · rw [if_pos hold]
      exact harmless_refl _ s
    · rw [if_neg hold] at herror
      cases herror
  | destroy db =>
    refine harmless_of_faulty hfail fun herror => ?_
    unfold destroy at herror ⊢
    by_cases hold : s.databases.contains db = true
    · rw [if_pos hold] at herror
      cases herror
    · rw [if_neg hold]
      exact harmless_refl _ s
  | get db id =>
    refine harmless_of_faulty hfail fun _ => ?_
    have hsame : (get db id s).2 = s := by
      unfold get
      split <;> rfl
    rw [hsame]
    exact harmless_refl _ s
  | insert db id body rev =>
    rcases serve_insert_cases db id body rev s with ⟨e', hrefused⟩ | ⟨ms, rfl⟩
    · rw [hrefused]
      exact harmless_refl _ s
    · have hinsertion := insertion_serve db id ms rev s
      rw [hfail] at hinsertion
      exact harmless_of_insertion h hinsertion

/-- Two competing writes wait, one of them with nothing to write, and a failure for another kind of
call. -/
def waylaid : MemoryStore :=
  let made := (serve (.create "db") empty).2
  let failing := made.failNext .get (.transport "")
  (failing.raceNext "db" "other" .null).raceNext "db" "doc" (.object [])

theorem failed_call_harmless_waylaid :
    let c := StoreCall.insert "db" "doc" (.object []) none
    Reachable waylaid ∧ (serve c waylaid).1 = c.refused stale ∧
      Harmless c waylaid (serve c waylaid).2 ∧ (serve c waylaid).2.writes = 1 ∧
      ((serve c waylaid).2.document "db" "doc").isSome ∧ (serve c waylaid).2.faults.length = 1 ∧
      (serve c waylaid).2.races.length = 1 := by
  intro c
  have h : Reachable waylaid := .raceNext _ _ _ (.raceNext _ _ _ (.failNext _ _ (.call _ .empty)))
  have hfail : (serve c waylaid).1 = c.refused stale := rfl
  exact ⟨h, hfail, failed_call_harmless h hfail, by decide +kernel, by decide +kernel,
    by decide +kernel, by decide +kernel⟩

end Failures

end MemoryStore

end Permits
