import Permits.Proofs.Provision.Errands
import Permits.Proofs.Store.Separation

namespace Permits

open MemoryStore

structure Tenant where
  database : String
  errands : List Errand
  own : ∀ e ∈ errands, e.database = database

theorem Errand.database_of_call {db : String} {c : StoreCall} (hc : Errand.Call db c) :
    c.database = db := by
  rcases hc with rfl | ⟨a, rfl | hc⟩
  · rfl
  · rfl
  · cases c with
    | create name => exact hc.elim
    | destroy name => exact hc.elim
    | get name id => exact hc.1
    | insert name id body rev => exact hc.1

namespace Tenant

def task (t : Tenant) : Task (List Errand.Answer) := Errand.all t.errands

theorem asks_task (t : Tenant) : t.task.Asks (·.database = t.database) (7 * t.errands.length) :=
  Errand.asks_all _ fun e he _ hc => (Errand.database_of_call hc).trans (t.own e he)

/-- Tenants over one store, before the first call of any of them. -/
def together (ts : List Tenant) (s : MemoryStore) : Pool MemoryStore (List Errand.Answer) :=
  .start s (ts.map task)

theorem results?_together {ts : List Tenant} {s : MemoryStore} {schedule : List Nat}
    (turns : ∀ i t, ts[i]? = some t → 7 * t.errands.length ≤ schedule.count i) :
    ((together ts s).run serve schedule).results?.isSome := by
  apply Pool.results?_isSome
  intro i task hi
  have hlt : i < ts.length := by
    rw [← Pool.length_tasks_start s ts Tenant.task, ← Pool.length_tasks_run]
    exact (List.getElem?_eq_some_iff.1 hi).1
  have ht := List.getElem?_eq_getElem hlt
  have hstart : (together ts s).tasks[i]? = some ts[i].task.settle.1 := by
    rw [together, Pool.getElem?_tasks_start, ht, Option.map_some]
  obtain ⟨a, ha⟩ := Pool.run_done hstart ts[i].asks_task (turns i _ ht)
  exact ⟨a, Option.some.inj (hi.symm.trans ha)⟩

end Tenant

/-- Calls on a database are answered as if they came alone, and the database is in the end what they
make of it. -/
structure Undisturbed (s : MemoryStore) (db : String) (own all : List StoreCall) : Prop where
  answers : (Service.answers serve all s).filter (·.1.database = db) = Service.answers serve own s
  contents : (Service.finish serve all s).databases.find? db =
    (Service.finish serve own s).databases.find? db

/-- Databases do not interfere while no failure waits, be it with single calls or with the errands
of tenants: these end in every order of the calls, and with the answers that each gets alone. -/
theorem databases_separate {s : MemoryStore} (hf : s.faults = []) :
    (∀ (a b : String) (xs ys zs : List StoreCall), a ≠ b → (∀ c ∈ xs, c.database = a) →
      (∀ c ∈ ys, c.database = b) → Interleaved xs ys zs →
      Undisturbed s a xs zs ∧ Undisturbed s b ys zs) ∧
    ∀ (ts : List Tenant) (schedule : List Nat), (ts.map Tenant.database).Nodup →
      let pool := (Tenant.together ts s).run serve schedule
      ((∀ i t, ts[i]? = some t → 7 * t.errands.length ≤ schedule.count i) →
        pool.results?.isSome) ∧
      ∀ rs, pool.results? = some rs → rs = ts.map (fun t => (t.task.run serve s).1) ∧
        ∀ t ∈ ts, pool.state.databases.find? t.database =
          (t.task.run serve s).2.1.databases.find? t.database := by
  constructor
  · intro a b xs ys zs hab hxs hys hzs
    have hx := answers_interleaved hf hxs (fun c hc => hys c hc ▸ hab.symm) hzs
    have hy := answers_interleaved hf hys (fun c hc => hxs c hc ▸ hab) hzs.symm
    exact ⟨⟨hx.1, hx.2⟩, ⟨hy.1, hy.2⟩⟩
  · intro ts schedule distinct
    exact ⟨Tenant.results?_together, fun rs hrs =>
      results_apart hf distinct (fun t _ => ⟨_, t.asks_task⟩) hrs⟩

/-- Two databases, and a rival that waits in each. -/
def ambushed : MemoryStore :=
  (((empty.create "a").2.create "b").2.raceNext "a" "doc" (.object [])).raceNext "b" writeGuardId
    (.object [])

/-- One tenant provisions its database while the other updates and destroys its own. -/
def neighbours : List Tenant :=
  let p : Provisioner := ⟨hashedTranslator, {}⟩
  [⟨"a", [.provision p "alice" "a" "app" ⟨some { write := .anyone }⟩], by simp [Errand.database]⟩,
   ⟨"b", [.update p "alice" "b" "app" ⟨none⟩, .deprovision "b"], by simp [Errand.database]⟩]

theorem databases_separate_ambushed :
    let write (db : String) : StoreCall := .insert db "doc" (.object []) none
    ambushed.faults = [] ∧
      Undisturbed ambushed "a" [write "a", .get "a" "doc"]
        [.destroy "b", write "a", write "b", .get "a" "doc"] ∧
      (serve (write "a") ambushed).1 = .error stale ∧
      ∃ rs, ((Tenant.together neighbours ambushed).run serve (roundRobin 2 14)).results? = some rs ∧
        rs = neighbours.map fun t => (t.task.run serve ambushed).1 := by
  intro write
  have hf : ambushed.faults = [] := rfl
  obtain ⟨hcalls, htenants⟩ := databases_separate hf
  have hown := hcalls "a" "b" [write "a", .get "a" "doc"] [.destroy "b", write "b"]
    [.destroy "b", write "a", write "b", .get "a" "doc"] (by decide)
    (by simp [write, StoreCall.database]) (by simp [write, StoreCall.database])
    (.right _ (.left _ (.right _ (.left _ .nil))))
  have hdistinct : (neighbours.map Tenant.database).Nodup := by decide
  have hturns (i : Nat) (t : Tenant) (ht : neighbours[i]? = some t) :
      7 * t.errands.length ≤ (roundRobin 2 14).count i := by
    match i, ht with
    | 0, rfl => decide
    | 1, rfl => decide
  obtain ⟨hends, hsame⟩ := htenants neighbours (roundRobin 2 14) hdistinct
  obtain ⟨rs, hrs⟩ := Option.isSome_iff_exists.1 (hends hturns)
  exact ⟨hf, hown.1, rfl, rs, hrs, (hsame rs hrs).1⟩

end Permits
