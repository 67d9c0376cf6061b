import Permits.Proofs.Store.Calls

namespace Permits

/-- A caller may take the error for an answer. -/
def StoreError.isSignal (e : StoreError) : Bool :=
  e.isAlreadyExists || e.isNotFound || e.isConflict

theorem StoreError.isSignal_eq_false {e : StoreError} :
    e.isSignal = false ↔
      e.isAlreadyExists = false ∧ e.isNotFound = false ∧ e.isConflict = false := by
  rw [isSignal, Bool.or_eq_false_iff, Bool.or_eq_false_iff, and_assoc]

namespace StoreCall

def operation : StoreCall → Operation
  | .create _ => .create
  | .destroy _ => .destroy
  | .get _ _ => .get
  | .insert _ _ _ _ => .insert

def refused : (c : StoreCall) → StoreError → c.Answer
  | .create _, e => .error e
  | .destroy _, e => .error e
  | .get _ _, e => .error e
  | .insert _ _ _ _, e => .error e

end StoreCall

namespace MemoryStore

/-- The store as it is apart from the failures that wait. -/
def calm (s : MemoryStore) : MemoryStore := { s with faults := [] }

/-- The oldest failure for a kind of call has been taken out, and nothing else happened. -/
def Delivered (op : Operation) (e : StoreError) (s s' : MemoryStore) : Prop :=
  ∃ before after, s.faults = before ++ (op, e) :: after ∧ (∀ f ∈ before, f.1 ≠ op) ∧
    s' = { s with faults := before ++ after }

/-- What came of a call is what comes of it where no failure waits. -/
structure Calmly {β : Type} (s : MemoryStore) (result calmed : β × MemoryStore) : Prop where
  answer : result.1 = calmed.1
  state : result.2.calm = calmed.2
  faults : result.2.faults = s.faults
  races : result.2.races = s.races

/-- Every failure that waits is a failure to its caller, and nobody waits to write first. -/
structure Genuine (s : MemoryStore) : Prop where
  faults : ∀ f ∈ s.faults, f.2.isSignal = false
  races : s.races = []

variable {s s' : MemoryStore} {op : Operation} {e : StoreError}

theorem popFault_cases (op : Operation) (faults : List (Operation × StoreError)) :
    (popFault op faults = none ∧ ∀ f ∈ faults, f.1 ≠ op) ∨
      ∃ e before after, popFault op faults = some (e, before ++ after) ∧
        faults = before ++ (op, e) :: after ∧ ∀ f ∈ before, f.1 ≠ op := by
  induction faults with
  | nil => exact .inl ⟨rfl, nofun⟩
  | cons f rest ih =>
    obtain ⟨o, e⟩ := f
    unfold popFault
    by_cases ho : o = op
    · subst ho
      rw [if_pos rfl]
      exact .inr ⟨e, [], rest, rfl, rfl, nofun⟩
    · rw [if_neg ho]
      obtain ⟨hpop, hrest⟩ | ⟨e', before, after, hpop, hrest, hbefore⟩ := ih
      · refine .inl ⟨by rw [hpop, Option.map_none], ?_⟩
        exact List.forall_mem_cons.2 ⟨ho, hrest⟩
      · refine .inr ⟨e', (o, e) :: before, after, by rw [hpop, Option.map_some]; rfl, ?_, ?_⟩
        · rw [hrest, List.cons_append]
        · exact List.forall_mem_cons.2 ⟨ho, hbefore⟩

theorem Delivered.calm_eq (h : Delivered op e s s') : s'.calm = s.calm := by
  obtain ⟨before, after, -, -, rfl⟩ := h
  rfl

theorem Genuine.delivered (hs : s.Genuine) (h : Delivered op e s s') :
    e.isSignal = false ∧ s'.Genuine := by
  obtain ⟨before, after, hfaults, -, rfl⟩ := h
  have hall := hs.faults
  rw [hfaults] at hall
  refine ⟨hall (op, e) (List.mem_append_right _ List.mem_cons_self), ?_, hs.races⟩
  intro f hf
  apply hall
  rcases List.mem_append.1 hf with hf | hf
  · exact List.mem_append_left _ hf
  · exact List.mem_append_right _ (List.mem_cons_of_mem _ hf)

theorem Genuine.quiet_calm (hs : s.Genuine) : s.calm.Quiet := ⟨rfl, hs.races⟩

theorem Genuine.of_calmly (hs : s.Genuine) {β : Type} {result calmed : β × MemoryStore}
    (h : Calmly s result calmed) : result.2.Genuine := by
  refine ⟨fun f hf => hs.faults f ?_, h.races.trans hs.races⟩
  rwa [← h.faults]

section Calls

variable {α : Type} {call : MemoryStore → Except StoreError α × MemoryStore} {db id : String}

/-- A call goes ahead only if no failure waits for its kind. -/
theorem faulty_delivered (op : Operation) (s : MemoryStore)
    (call : MemoryStore → Except StoreError α × MemoryStore) :
    (∃ e s', Delivered op e s s' ∧ faulty op s call = (.error e, s')) ∨
      (∀ f ∈ s.faults, f.1 ≠ op) ∧ faulty op s call = call s := by
  unfold faulty
  obtain ⟨hpop, hnone⟩ | ⟨e, before, after, hpop, hfaults, hbefore⟩ := popFault_cases op s.faults
  · rw [hpop]
    exact .inr ⟨hnone, rfl⟩
  · rw [hpop]
    exact .inl ⟨e, _, ⟨before, after, hfaults, hbefore, rfl⟩, rfl⟩

theorem faulty_delivered_or_calmly (op : Operation) (h : Calmly s (call s) (call s.calm)) :
    (∃ e s', Delivered op e s s' ∧ faulty op s call = (.error e, s')) ∨
      Calmly s (faulty op s call) (faulty op s.calm call) := by
  have hcalm : faulty op s.calm call = call s.calm := rfl
  refine (faulty_delivered op s call).imp_right fun ⟨_, hcall⟩ => ?_
  rw [hcall, hcalm]
  exact h

theorem calmly_create (s : MemoryStore) (db : String) :
    Calmly s (s.create db) (s.calm.create db) := by
  have hcontains : s.calm.databases.contains db = s.databases.contains db := rfl
  unfold create
  rw [hcontains]
  split <;> exact ⟨rfl, rfl, rfl, rfl⟩

theorem calmly_destroy (s : MemoryStore) (db : String) :
    Calmly s (s.destroy db) (s.calm.destroy db) := by
  have hcontains : s.calm.databases.contains db = s.databases.contains db := rfl
  unfold destroy
  rw [hcontains]
  split <;> exact ⟨rfl, rfl, rfl, rfl⟩

theorem calmly_get (s : MemoryStore) (db id : String) :
    Calmly s (s.get db id) (s.calm.get db id) := by
  have hfind : s.calm.databases.find? db = s.databases.find? db := rfl
  unfold get
  rw [hfind]
  split <;> exact ⟨rfl, rfl, rfl, rfl⟩

theorem calmly_writeOrStay (s : MemoryStore) (db id : String) (body : Members)
    (rev : Option String) :
    Calmly s (s.writeOrStay db id body rev) (s.calm.writeOrStay db id body rev) := by
  have hfind : s.calm.databases.find? db = s.databases.find? db := rfl
  unfold writeOrStay write
  rw [hfind]
  cases s.databases.find? db with
  | none => exact ⟨rfl, rfl, rfl, rfl⟩
  | some d =>
    by_cases hid : id = securityId
    · simp only [hid, if_true]
      exact ⟨rfl, rfl, rfl, rfl⟩
    · simp only [hid, if_false]
      cases admits (d.documents.find? id) rev (deletes body) <;> exact ⟨rfl, rfl, rfl, rfl⟩

/-- A call takes a failure that waits for it, or goes as if none waited. -/
theorem serve_delivered_or_calmly (hraces : s.races = []) (c : StoreCall) :
    (∃ e s', Delivered c.operation e s s' ∧ serve c s = (c.refused e, s')) ∨
      Calmly s (serve c s) (serve c s.calm) := by
  cases c with
  | create db => exact faulty_delivered_or_calmly .create (calmly_create s db)
  | destroy db => exact faulty_delivered_or_calmly .destroy (calmly_destroy s db)
  | get db id => exact faulty_delivered_or_calmly .get (calmly_get s db id)
  | insert db id body rev =>
    simp only [serve, insert]
    cases stamped none body with
    | error e => exact .inr ⟨rfl, rfl, rfl, rfl⟩
    | ok members =>
      have halone (t : MemoryStore) (ht : t.races = []) :
          insertRaced db id members rev t = t.writeOrStay db id members rev := by
        rw [insertRaced, ht]
        rfl
      have hcalm : s.calm.races = [] := hraces
      apply faulty_delivered_or_calmly .insert
      rw [halone s hraces, halone s.calm hcalm]
      exact calmly_writeOrStay s db id members rev

end Calls

end MemoryStore

end Permits
