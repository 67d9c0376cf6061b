import Permits.Proofs.Store.Faults

namespace Permits

namespace MemoryStore

/-- The store without the competing write that waits for a document. -/
def unrivalled (s : MemoryStore) (db id : String) : MemoryStore :=
  { s with races := s.races.filter (·.1 ≠ (db, id)) }

inductive Attempt (db id : String) (ms : Members) (rev : Option String) (s : MemoryStore) :
    Except StoreError (Option String) → MemoryStore → Prop where
  | taken (accepted : s.accepts db id rev (deletes ms) = true) :
      Attempt db id ms rev s (.ok (s.writtenRev db id ms)) (s.written db id ms)
  | refused (e : StoreError) (turned : s.accepts db id rev (deletes ms) = false) :
      Attempt db id ms rev s (.error e) s

/-- All that can come of an insertion of members: a failure is delivered, or the store tries to
write them, on its own or after a competitor. A competitor that has nothing to write, or is refused,
fails the insertion. -/
inductive Insertion (db id : String) (ms : Members) (rev : Option String) (s : MemoryStore) :
    Except StoreError (Option String) → MemoryStore → Prop where
  | faulted {e : StoreError} {t : MemoryStore} (failure : Delivered .insert e s t) :
      Insertion db id ms rev s (.error e) t
  | alone {answer : Except StoreError (Option String)} {t : MemoryStore}
      (calm : ∀ f ∈ s.faults, f.1 ≠ .insert) (free : ∀ race ∈ s.races, race.1 ≠ (db, id))
      (own : Attempt db id ms rev s answer t) : Insertion db id ms rev s answer t
  | spoiled (e : StoreError) {competing : Json} (calm : ∀ f ∈ s.faults, f.1 ≠ .insert)
      (waiting : ((db, id), competing) ∈ s.races)
      (useless : ∀ rival, competing = .object rival →
        s.accepts db id (s.liveRevision db id) (deletes rival) = false) :
      Insertion db id ms rev s (.error e) (s.unrivalled db id)
  | overtaken {rival : Members} {answer : Except StoreError (Option String)} {t : MemoryStore}
      (calm : ∀ f ∈ s.faults, f.1 ≠ .insert) (waiting : ((db, id), .object rival) ∈ s.races)
      (ahead : s.accepts db id (s.liveRevision db id) (deletes rival) = true)
      (own : Attempt db id ms rev ((s.unrivalled db id).written db id rival) answer t) :
      Insertion db id ms rev s answer t

variable {s : MemoryStore} {db id : String} {ms : Members} {rev : Option String}

theorem attempt_writeOrStay (s : MemoryStore) (db id : String) (ms : Members)
    (rev : Option String) :
    Attempt db id ms rev s (s.writeOrStay db id ms rev).1 (s.writeOrStay db id ms rev).2 := by
  rw [writeOrStay_eq]
  cases hacc : s.accepts db id rev (deletes ms) with
  | true => exact .taken hacc
  | false => exact .refused _ hacc

/-- The competitor that waits is let ahead, and the insertion follows unless that one is refused. -/
theorem insertRaced_of_waiting {rival : Members}
    (h : s.races.find? (·.1 = (db, id)) = some ((db, id), .object rival)) (ms : Members)
    (rev : Option String) : s.insertRaced db id ms rev =
      if s.accepts db id (s.liveRevision db id) (deletes rival) then
        ((s.unrivalled db id).written db id rival).writeOrStay db id ms rev
      else (.error (if s.databaseExists db then stale else noDatabase db), s.unrivalled db id) := by
  -- to be taken or not is a matter of the databases, which the waiting writes are no part of
  have hsame : (s.unrivalled db id).accepts db id ((s.unrivalled db id).liveRevision db id)
      (deletes rival) = s.accepts db id (s.liveRevision db id) (deletes rival) := rfl
  have hwrite := write_eq (s.unrivalled db id) db id rival
    ((s.unrivalled db id).liveRevision db id)
  rw [hsame] at hwrite
  rw [insertRaced, h]
  unfold unrivalled at hwrite ⊢
  cases hahead : s.accepts db id (s.liveRevision db id) (deletes rival) with
  | false =>
    rw [hahead, if_neg Bool.false_ne_true] at hwrite
    simp only [stamped, hwrite]
    rfl
  | true =>
    rw [hahead, if_pos rfl] at hwrite
    simp only [stamped, hwrite]
    rfl

theorem insertion_insertRaced (calm : ∀ f ∈ s.faults, f.1 ≠ .insert) :
    Insertion db id ms rev s (s.insertRaced db id ms rev).1 (s.insertRaced db id ms rev).2 := by
  cases hrace : s.races.find? (·.1 = (db, id)) with
  | none =>
    have hfree : ∀ race ∈ s.races, race.1 ≠ (db, id) := by simpa using hrace
    rw [insertRaced, hrace]
    exact .alone calm hfree (attempt_writeOrStay s db id ms rev)
  | some race =>
    obtain ⟨key, competing⟩ := race
    have hkey : key = (db, id) := by simpa using List.find?_some hrace
    subst hkey
    have hwaiting := List.mem_of_find?_eq_some hrace
    cases competing with
    | object rival =>
      rw [insertRaced_of_waiting hrace]
      cases hahead : s.accepts db id (s.liveRevision db id) (deletes rival) with
      | false =>
        refine .spoiled _ calm hwaiting fun rival' heq => ?_
        cases heq
        exact hahead
      | true => exact .overtaken calm hwaiting hahead (attempt_writeOrStay ..)
    | _ =>
      rw [insertRaced, hrace]
      refine .spoiled _ calm hwaiting fun rival heq => ?_
      cases heq

theorem insertion_serve (db id : String) (ms : Members) (rev : Option String) (s : MemoryStore) :
    Insertion db id ms rev s (serve (.insert db id (.object ms) rev) s).1
      (serve (.insert db id (.object ms) rev) s).2 := by
  have hserve : serve (.insert db id (.object ms) rev) s =
      faulty .insert s (insertRaced db id ms rev) := rfl
  rcases faulty_delivered .insert s (insertRaced db id ms rev) with ⟨e, t, hfailure, h⟩ | ⟨calm, h⟩
  · rw [hserve, h]
    exact .faulted hfailure
  · rw [hserve, h]
    exact insertion_insertRaced calm

/-- The security object takes any body, so it is not there that a write fails after a competing
one. -/
theorem ne_securityId_of_refused {early : Option String} {rival : Members} {doomed deleting : Bool}
    (ahead : s.accepts db id early doomed = true)
    (turned : ((s.unrivalled db id).written db id rival).accepts db id rev deleting = false) :
    id ≠ securityId := by
  intro hid
  have hexist : ((s.unrivalled db id).written db id rival).databaseExists db = true := by
    rw [databaseExists_written]
    exact databaseExists_of_accepts ahead
  rw [accepts, hexist, decide_eq_true hid] at turned
  cases turned

end MemoryStore

end Permits
