import Permits.Proofs.Store.Insertion

namespace Permits

namespace MemoryStore

/-- The states that a new store can come to: by calls, and by failures and competing writes that are
put in the way of later calls. -/
inductive Reachable : MemoryStore → Prop where
  | empty : Reachable empty
  | call {s : MemoryStore} (c : StoreCall) (h : Reachable s) : Reachable (serve c s).2
  | failNext {s : MemoryStore} (op : Operation) (e : StoreError) (h : Reachable s) :
      Reachable (s.failNext op e)
  | raceNext {s : MemoryStore} (db id : String) (body : Json) (h : Reachable s) :
      Reachable (s.raceNext db id body)

/-- What holds of databases whatever is made, destroyed and written. -/
structure Lasting (inv : Keyed Database → Prop) : Prop where
  made : ∀ m db, inv m → inv (m.put db {})
  destroyed : ∀ m db, inv m → inv (m.erase db)
  written : ∀ m db d id body, m.find? db = some d → inv m →
    inv (m.put db (Database.written d id body))

theorem write_eq_ok {s t : MemoryStore} {db id : String} {body : Members} {rev r : Option String}
    (h : s.write db id body rev = .ok (r, t)) :
    s.accepts db id rev (deletes body) = true ∧ r = s.writtenRev db id body ∧
      t = s.written db id body := by
  rw [write_eq] at h
  split at h
  · next hacc =>
    cases h
    exact ⟨hacc, rfl, rfl⟩
  · cases h

namespace Lasting

variable {inv : Keyed Database → Prop} {s : MemoryStore} {db id : String} {body : Members}

theorem written_databases (hinv : Lasting inv) (h : inv s.databases) (db id : String)
    (body : Members) : inv (s.written db id body).databases := by
  unfold MemoryStore.written
  split
  · exact h
  · next d hd => exact hinv.written _ db d id body hd h

theorem attempt (hinv : Lasting inv) (h : inv s.databases) {rev : Option String}
    {answer : Except StoreError (Option String)} {t : MemoryStore}
    (ht : Attempt db id body rev s answer t) : inv t.databases := by
  cases ht with
  | taken _ => exact hinv.written_databases h db id body
  | refused _ _ => exact h

/-- A competing write is a write like any other. -/
theorem insertion (hinv : Lasting inv) (h : inv s.databases) {rev : Option String}
    {answer : Except StoreError (Option String)} {t : MemoryStore}
    (ht : Insertion db id body rev s answer t) : inv t.databases := by
  cases ht with
  | faulted failure =>
    obtain ⟨before, after, -, -, rfl⟩ := failure
    exact h
  | alone _ _ own => exact hinv.attempt h own
  | spoiled _ _ _ _ => exact h
  | overtaken _ _ _ own =>
    apply hinv.attempt _ own
    apply hinv.written_databases
    exact h

theorem faulty {α : Type} (h : inv s.databases) (op : Operation)
    {call : MemoryStore → Except StoreError α × MemoryStore} (hcall : inv (call s).2.databases) :
    inv (MemoryStore.faulty op s call).2.databases := by
  unfold MemoryStore.faulty
  split
  · exact h
  · exact hcall

theorem serve (hinv : Lasting inv) (h : inv s.databases) (c : StoreCall) :
    inv (MemoryStore.serve c s).2.databases := by
  cases c with
  | create db =>
    apply faulty h
    unfold MemoryStore.create
    split
    · exact h
    · exact hinv.made _ db h
  | destroy db =>
    apply faulty h
    unfold MemoryStore.destroy
    split
    · exact hinv.destroyed _ db h
    · exact h
  | get db id =>
    apply faulty h
    unfold MemoryStore.get
    split <;> exact h
  | insert db id body rev =>
    rcases serve_insert_cases db id body rev s with ⟨e, hrefused⟩ | ⟨ms, rfl⟩
    · rw [hrefused]
      exact h
    · exact hinv.insertion h (insertion_serve db id ms rev s)

/-- What lasts and holds of no databases holds in every state of a store. -/
theorem of_reachable (hinv : Lasting inv) (nil : inv []) (h : Reachable s) : inv s.databases := by
  induction h with
  | empty => exact nil
  | call c _ ih => exact hinv.serve ih c
  | failNext op e _ ih => exact ih
  | raceNext db id body _ ih => exact ih

end Lasting

end MemoryStore

end Permits
