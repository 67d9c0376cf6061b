import Permits.Proofs.Data.Increasing
import Permits.Proofs.Provision.Repair
import Permits.Proofs.Provision.Tenants

namespace Permits

open MemoryStore

section Runs

variable {α : Type} {db : String} {s t : MemoryStore} {n : Nat}

/-- A task on a database runs alike in stores that the database does not tell apart. -/
theorem run_alike (h : Alike db s t) {task : Task α} (asks : task.Asks (·.database = db) n) :
    (task.run serve s).1 = (task.run serve t).1 ∧
      (task.run serve s).2.2 = (task.run serve t).2.2 ∧
      Alike db (task.run serve s).2.1 (task.run serve t).2.1 := by
  induction task generalizing s t n with
  | done a => exact ⟨rfl, rfl, h⟩
  | count k rest ih =>
    obtain ⟨hanswer, hcounted, hstore⟩ := ih h asks
    exact ⟨hanswer, congrArg (k :: ·) hcounted, hstore⟩
  | call c next ih =>
    obtain ⟨-, hc, hnext⟩ := asks
    obtain ⟨hanswer, hstore⟩ := h.serve hc
    simp only [Task.run, hanswer]
    exact ih _ hstore (hnext _)

theorem run_aside (hf : s.faults = []) {task : Task α} (asks : task.Asks (·.database ≠ db) n) :
    Alike db s (task.run serve s).2.1 := by
  induction task generalizing s n with
  | done a => exact .refl hf db
  | count k rest ih => exact ih hf asks
  | call c next ih =>
    obtain ⟨-, hc, hnext⟩ := asks
    have hcall := alike_serve hf hc
    exact hcall.trans (ih _ hcall.right (hnext _))

theorem run_all_aside (hf : s.faults = []) {errands : List Errand}
    (h : ∀ e ∈ errands, e.database ≠ db) : Alike db s ((Errand.all errands).run serve s).2.1 := by
  apply run_aside hf
  apply Errand.asks_all
  intro e he c hc
  rw [Errand.database_of_call hc]
  exact h e he

namespace Provisioner

theorem asks_provision_own (p : Provisioner) (owner db app : String) (options : DatabaseOptions) :
    (p.provision owner db app options).Asks (·.database = db) 7 := by
  cases ha : p.compile owner app options with
  | error e =>
    rw [provision, ha]
    trivial
  | ok a =>
    apply (asks_provision ha db).mono _ (Nat.le_refl 7)
    exact fun c hc => Errand.database_of_call (.inr ⟨a, hc⟩)

theorem run_deprovision (hq : s.Quiet) (db : String) :
    (deprovision db).run serve s =
      (.ok (if s.databaseExists db then .destroyed else .alreadyAbsent),
        { s with databases := s.databases.erase db },
        if s.databaseExists db then [.destroyed] else []) := by
  have hserve := @serve_destroy s db hq
  cases hex : s.databaseExists db with
  | true =>
    rw [hex, if_pos rfl] at hserve
    simp [deprovision, Task.destroy, bind, Task.bind, Task.run, hserve, pure, Task.counting]
  | false =>
    have hmissing : s.databases.find? db = none := by
      simpa [databaseExists, Keyed.contains] using hex
    rw [hex, if_neg Bool.false_ne_true] at hserve
    simp [deprovision, Task.destroy, bind, Task.bind, Task.run, hserve, pure, noDatabase,
      StoreError.isNotFound, Keyed.erase_of_find?_eq_none hmissing]

end Provisioner

end Runs

section Forgetting

variable {s : MemoryStore} {db : String}

/-- Where a database has been destroyed, it is as in a store that never had it. -/
theorem alike_empty_of_erase (hq : s.Quiet) (db : String) :
    Alike db { s with databases := s.databases.erase db } MemoryStore.empty := by
  refine ⟨hq.faults, rfl, Keyed.find?_erase_self .., ?_⟩
  simp only [MemoryStore.rivals, hq.races]
  rfl

/-- Destroying a database again changes nothing, and whoever provisions it later, after whatever
errands on other databases, finds it as in an empty store: with that answer, and with the same
documents, tombstones and revisions in the end. -/
theorem deprovision_forgets (hq : s.Quiet) (db : String) :
    let gone := (Provisioner.deprovision db).run serve s
    let again := (Provisioner.deprovision db).run serve gone.2.1
    (gone.1 = .ok (if s.databaseExists db then .destroyed else .alreadyAbsent) ∧
      gone.2.1.databaseExists db = false ∧
      ∀ other, other ≠ db → gone.2.1.databases.find? other = s.databases.find? other) ∧
    (again.1 = .ok .alreadyAbsent ∧ again.2.1 = gone.2.1) ∧
    ∀ meanwhile : List Errand, (∀ e ∈ meanwhile, e.database ≠ db) →
      ∀ (p : Provisioner) (owner app : String) (options : DatabaseOptions),
        let later := ((Errand.all meanwhile).run serve gone.2.1).2.1
        let renewed := (p.provision owner db app options).run serve later
        let fresh := (p.provision owner db app options).run serve MemoryStore.empty
        renewed.1 = fresh.1 ∧ renewed.2.2 = fresh.2.2 ∧
          renewed.2.1.databases.find? db = fresh.2.1.databases.find? db := by
  intro gone again
  have hgone : gone.2.1 = { s with databases := s.databases.erase db } := by
    simp only [gone, Provisioner.run_deprovision hq db]
  have hquiet : gone.2.1.Quiet := by
    rw [hgone]
    exact ⟨hq.faults, hq.races⟩
  have hmissing : gone.2.1.databaseExists db = false := by
    simp [hgone, databaseExists, Keyed.contains]
  have hagain := Provisioner.run_deprovision hquiet db
  refine ⟨⟨?_, hmissing, ?_⟩, ⟨?_, ?_⟩, ?_⟩
  · simp only [gone, Provisioner.run_deprovision hq db]
  · intro other hne
    rw [hgone]
    exact Keyed.find?_erase_of_ne _ hne
  · simp [again, hagain, hmissing]
  · have hnone : gone.2.1.databases.find? db = none := by
      simpa [databaseExists, Keyed.contains] using hmissing
    simp only [again, hagain, Keyed.erase_of_find?_eq_none hnone]
  · intro meanwhile hothers p owner app options later renewed fresh
    have hempty : Alike db gone.2.1 MemoryStore.empty := hgone ▸ alike_empty_of_erase hq db
    have hlater : Alike db later MemoryStore.empty :=
      (run_all_aside hquiet.faults hothers).symm.trans hempty
    obtain ⟨hanswer, hcounted, hstore⟩ :=
      run_alike hlater (p.asks_provision_own owner db app options)
    exact ⟨hanswer, hcounted, hstore.database⟩

/-- Of the database that was neglected, a private provision keeps nothing: there is no delete guard
to remove. -/
theorem deprovision_forgets_neglected :
    neglected.Quiet ∧
      let gone := (Provisioner.deprovision "db").run serve neglected
      let p : Provisioner := ⟨fun _ _ => .ok [], {}⟩
      let renewed := (p.provision "alice" "db" "app" ⟨none⟩).run serve gone.2.1
      let fresh := (p.provision "alice" "db" "app" ⟨none⟩).run serve MemoryStore.empty
      gone.1 = .ok .destroyed ∧ renewed.1 = fresh.1 ∧
        renewed.2.1.databases.find? "db" = fresh.2.1.databases.find? "db" := by
  have hq : neglected.Quiet := quiet_written (quiet_written (quiet_written (quiet_written
    (quiet_withDatabase quiet_empty "db") ..) ..) ..) ..
  have hex : neglected.databaseExists "db" = true := by
    simp only [neglected, databaseExists_written, databaseExists_withDatabase]
  obtain ⟨⟨hgone, -⟩, -, hrenewed⟩ := deprovision_forgets hq "db"
  rw [hex, if_pos rfl] at hgone
  obtain ⟨hanswer, -, hdatabase⟩ :=
    hrenewed [] (by simp) ⟨fun _ _ => .ok [], {}⟩ "alice" "app" ⟨none⟩
  exact ⟨hq, hgone, hanswer, hdatabase⟩

end Forgetting

end Permits
