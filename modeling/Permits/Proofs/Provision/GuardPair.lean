import Permits.Proofs.Policy.Access
import Permits.Proofs.Provision.Settling

namespace Permits

open MemoryStore

/-- The two guards as goals: the last writer of the write guard is one of some, and the delete guard
is there, or it is not. -/
def guardGoals (db : String) (writer : Nat → Prop) (live : Bool) : Goals db where
  reached id x :=
    (id = writeGuardId → ∃ k, lastWriter? db writeGuardId x.2 = some k ∧ writer k) ∧
    (id = deleteGuardId → (x.1.document db deleteGuardId).isSome = live)
  frame := by
    intro id x s e h hsame hwrote
    refine ⟨?_, ?_⟩
    · rintro rfl
      rw [lastWriter?_append_other hwrote]
      exact h.1 rfl
    · rintro rfl
      rw [hsame]
      exact h.2 rfl

theorem aims_guardGoals {a : Artifacts} {w : Nat → Prop} {i : Nat} {step : Step} (db : String)
    (hstep : step ∈ a.steps) (hi : step.1 = writeGuardId → w i) :
    Aims (guardGoals db w a.deleteGuard.isSome) i step := by
  have hdelete : step.1 = deleteGuardId → step.2.isSome = a.deleteGuard.isSome := by
    rcases Artifacts.mem_steps.1 hstep with rfl | rfl | rfl
    · exact fun h => absurd h.symm deleteGuardId_ne_securityId
    · exact fun h => absurd h.symm deleteGuardId_ne_writeGuardId
    · exact fun _ => Option.isSome_map
  refine ⟨Artifacts.plain_of_mem_steps hstep, Artifacts.retires_of_mem_steps hstep, ?_, ?_⟩
  · intro s h e hcaller hwrote hdoc
    refine ⟨?_, ?_⟩
    · intro hid
      rw [hid] at hwrote
      exact ⟨i, by rw [lastWriter?_append_wrote hwrote, hcaller], hi hid⟩
    · intro hid
      rw [← hdelete hid, ← hdoc, hid]
  · intro hnone x hdoc
    refine ⟨?_, ?_⟩
    · intro hid
      rcases Artifacts.mem_steps.1 hstep with rfl | rfl | rfl
      · cases hnone
      · cases hnone
      · exact absurd hid deleteGuardId_ne_writeGuardId
    · intro hid
      rw [← hdelete hid, hnone, ← hid, hdoc]

structure Update where
  provisioner : Provisioner
  owner : String
  app : String
  options : DatabaseOptions

namespace Update

def compile (u : Update) : Except PolicyError Artifacts :=
  u.provisioner.compile u.owner u.app u.options

def task (db : String) (u : Update) : Task (Except ProvisionError PermissionReport) :=
  u.provisioner.update u.owner db u.app u.options

def finish (u : Update) (r : PermissionReport) : Task (Except ProvisionError PermissionReport) :=
  .done ((u.provisioner.settings.onUpdate.enforce r).map fun _ => r)

def isPublic (u : Update) : Bool := (u.options.permissions.getD .ownerOnly).write = .anyone

/-- Updates of one database that are at work together, before their first calls. -/
def together (db : String) (us : List Update) (s : MemoryStore) :
    Pool MemoryStore (Except ProvisionError PermissionReport) :=
  .start s (us.map (task db))

/-- Whether anyone may write by the last of the updates to write a document; `origin` tells for the
document that they found. -/
def lastPublic (us : List Update) (origin : Bool) (db id : String) (h : List Event) : Bool :=
  ((lastWriter? db id h).bind (us[·]?)).elim origin isPublic

def Calls (db : String) (us : List Update) (i : Nat) (c : StoreCall) : Prop :=
  ∃ u a, us[i]? = some u ∧ u.compile = .ok a ∧ PassCall db a.steps c

theorem isSome_deleteGuard {u : Update} {a : Artifacts} (h : u.compile = .ok a) :
    a.deleteGuard.isSome = u.isPublic := by
  unfold compile Provisioner.compile at h
  cases hu : resolve ⟨u.owner⟩ u.app u.options.permissions u.provisioner.translator
      u.provisioner.settings.publicUser with
  | error e =>
    rw [hu] at h
    cases h
  | ok sets =>
    rw [hu] at h
    cases h
    rw [Artifacts.compile_deleteGuard (resolve_ok hu), isPublic]
    split <;> simp_all

section Together

variable {db : String} {us : List Update} {s : MemoryStore} {origin : Bool}

theorem asks_together (hus : ∀ u ∈ us, ∃ a, u.compile = .ok a) :
    Pool.Each (together db us s).tasks fun i t => ∃ n, t.Asks (Calls db us i) n := by
  apply Pool.Each.start
  intro i u hu
  obtain ⟨a, ha⟩ := hus u (List.mem_of_getElem? hu)
  refine ⟨6, Task.asks_settle.2 ?_⟩
  exact (Provisioner.asks_update ha db).mono (fun c hc => ⟨u, a, hu, ha, hc⟩) (Nat.le_refl 6)

/-- The delete guard of a ready database is there just if its last writer wanted it. -/
structure Tracked (db : String) (us : List Update) (origin : Bool) (x : Moment) : Prop where
  ready : Ready db x
  live : (x.1.document db deleteGuardId).isSome = lastPublic us origin db deleteGuardId x.2

theorem Tracked.call {x : Moment} (h : Tracked db us origin x) (i : Nat) {c : StoreCall}
    (hc : Calls db us i c) : Tracked db us origin (serve.recording i c x).2 := by
  obtain ⟨u, a, hu, ha, hc⟩ := hc
  have hout := Provisioner.outcome_of_call h.ready.quiet i (.inr hc)
  generalize (serve.recording i c x).2 = y at hout ⊢
  have hlive := h.live
  unfold lastPublic at hlive
  cases hout with
  | same e _ hwrote _ =>
    refine ⟨⟨h.ready.quiet, h.ready.exist⟩, ?_⟩
    rw [lastPublic, lastWriter?_append_other (hwrote deleteGuardId)]
    exact hlive
  | made hex =>
    rw [h.ready.exist] at hex
    cases hex
  | wrote step hstep rev r hex =>
    have haims := aims_guardGoals (w := (· = i)) db hstep fun _ => rfl
    obtain ⟨hsettles, -, hwritten⟩ := haims.settles_written h.ready rfl
    refine ⟨hsettles.ready, ?_⟩
    by_cases hid : step.1 = deleteGuardId
    · rw [hwritten hid, isSome_deleteGuard ha, lastPublic,
        lastWriter?_append_wrote (by simp [Event.wrote, hid])]
      simp [hu]
    · rw [document_written_of_ne (Ne.symm hid), lastPublic,
        lastWriter?_append_other (by simp [Event.wrote, hid])]
      exact hlive

/-- Throughout a run, the delete guard follows the last write of the delete guard. -/
theorem tracked_together (hus : ∀ u ∈ us, ∃ a, u.compile = .ok a) (hx : Ready db (s, []))
    (origin_eq : (s.document db deleteGuardId).isSome = origin) (schedule : List Nat) :
    Tracked db us origin ((together db us s).after serve schedule) :=
  Pool.run_invariant (Tracked db us origin) (fun i _ _ hc hx => hx.call i hc) _ []
    (asks_together hus) ⟨hx, origin_eq⟩ schedule

theorem task_eq {u : Update} {a : Artifacts} (ha : u.compile = .ok a) (db : String) :
    u.task db = (performSteps db a.steps { database := db }).bind u.finish := by
  unfold compile at ha
  unfold task Provisioner.update
  rw [ha]
  rfl

theorem length_together : (together db us s).tasks.length = us.length :=
  Pool.length_tasks_start ..

theorem safe_task {g : Goals db} {i : Nat} {u : Update} {a : Artifacts} {x : Moment}
    (ha : u.compile = .ok a) (aims : ∀ step ∈ a.steps, Aims g i step) (hx : Ready db x) :
    (u.task db).Safe (serve.recording i) (Moves g)
      (fun _ y => ∀ step ∈ a.steps, g.reached step.1 y) x := by
  rw [task_eq ha]
  apply (safe_performSteps (fun _ _ h => h) (Moves.refl g) aims hx _).bind (Moves.refl g)
  rintro r y ⟨-, hy, hreached⟩ z hyz step hstep
  exact (hyz.settles hy).keeps _ (hreached step hstep)

theorem guarded_of_agree (hus : ∀ u ∈ us, ∃ a, u.compile = .ok a) (hx : Ready db (s, []))
    {live : Bool} (agree : ∀ u ∈ us, u.isPublic = live) (hne : us ≠ []) {schedule : List Nat}
    (ends : ((together db us s).run serve schedule).results?.isSome) :
    (∃ k, lastWriter? db writeGuardId ((together db us s).history serve schedule) = some k ∧
      k < us.length) ∧
    (((together db us s).run serve schedule).state.document db deleteGuardId).isSome = live := by
  let g := guardGoals db (· < us.length) live
  have haims (i : Nat) (u : Update) (a : Artifacts) (hu : us[i]? = some u)
      (ha : u.compile = .ok a) : ∀ step ∈ a.steps, Aims g i step := by
    intro step hstep
    obtain ⟨hi, -⟩ := List.getElem?_eq_some_iff.1 hu
    have h := aims_guardGoals (w := (· < us.length)) db hstep fun _ => hi
    rwa [isSome_deleteGuard ha, agree u (List.mem_of_getElem? hu)] at h
  have hmoves (i j : Nat) (c : StoreCall) (x : Moment) (_ : i ≠ j) (hc : Calls db us i c) :
      Moves g x (serve.recording i c x).2 := by
    obtain ⟨u, a, hu, ha, hc⟩ := hc
    exact moves_of_call (haims i u a hu ha) (.inr hc) x
  have hstart : Pool.Each (together db us s).tasks fun i t => t.Safe (serve.recording i) (Moves g)
      (fun _ y => g.reached writeGuardId y ∧ g.reached deleteGuardId y) (s, []) := by
    apply Pool.Each.start
    intro i u hu
    obtain ⟨a, ha⟩ := hus u (List.mem_of_getElem? hu)
    refine Task.safe_settle.2 ((safe_task ha (haims i u a hu ha) hx).weaken ?_)
    intro r y hreached
    exact ⟨hreached _ (Artifacts.mem_steps.2 (.inr (.inl rfl))),
      hreached _ (Artifacts.mem_steps.2 (.inr (.inr rfl)))⟩
  have hsafe := Pool.run_safe (fun _ => Moves.refl g) (fun _ _ _ _ => Moves.trans) hmoves
    (together db us s) [] (asks_together hus) hstart schedule
  obtain ⟨rs, hrs⟩ := Option.isSome_iff_exists.1 ends
  have hpos : 0 < rs.length := by
    rw [Pool.length_of_results? hrs, Pool.length_tasks_run, length_together]
    exact List.length_pos_iff.2 hne
  obtain ⟨hwrite, hdelete⟩ := Pool.post_of_results? (fun _ => Moves.refl g) hsafe hrs
    (List.getElem?_eq_getElem hpos)
  exact ⟨hwrite.1 rfl, hdelete.2 rfl⟩

theorem exists_others_done (db : String) (s : MemoryStore)
    (hus : ∀ u ∈ us, ∃ a, u.compile = .ok a) (i j : Nat) :
    ∃ schedule, i ∉ schedule ∧ j ∉ schedule ∧
      ∀ k t, k ≠ i → k ≠ j → ((together db us s).run serve schedule).tasks[k]? = some t →
        ∃ r, t = .done r := by
  refine ⟨(roundRobin us.length 6).filter fun k => k ≠ i ∧ k ≠ j, by simp, by simp, ?_⟩
  intro k t hi hj ht
  have hk : k < us.length := by
    rw [← length_together, ← Pool.length_tasks_run]
    exact (List.getElem?_eq_some_iff.1 ht).1
  obtain ⟨a, ha⟩ := hus us[k] (List.getElem_mem hk)
  have hstart : (together db us s).tasks[k]? = some (us[k].task db).settle.1 := by
    rw [together, Pool.getElem?_tasks_start, List.getElem?_eq_getElem hk]
    rfl
  have hcount : ((roundRobin us.length 6).filter fun k => k ≠ i ∧ k ≠ j).count k = 6 := by
    rw [List.count_filter (by simp [hi, hj]), Pool.count_roundRobin hk]
  obtain ⟨r, hr⟩ := Pool.run_done hstart (Provisioner.asks_update ha db) (Nat.le_of_eq hcount.symm)
  exact ⟨r, Option.some.inj (ht.symm.trans hr)⟩

theorem pending_of_not_mem {i : Nat} {u : Update} {a : Artifacts} {schedule : List Nat}
    (hi : i ∉ schedule) (hu : us[i]? = some u) (ha : u.compile = .ok a) :
    Pending db ((together db us s).run serve schedule) i a.steps u.finish := by
  refine ⟨{ database := db }, rfl, ?_⟩
  rw [Pool.run_other hi, together, Pool.getElem?_tasks_start, hu, ← task_eq ha]
  rfl

theorem done_of_pending {p : Pool MemoryStore (Except ProvisionError PermissionReport)} {i : Nat}
    {u : Update} {t : Task (Except ProvisionError PermissionReport)}
    (h : Pending db p i [] u.finish) (ht : p.tasks[i]? = some t) : ∃ r, t = .done r := by
  obtain ⟨r, -, hr⟩ := h
  exact ⟨_, Option.some.inj (ht.symm.trans hr)⟩

/-- Another update can come between the first two documents of an update and the last one. It is
then the last to write the write guard. -/
theorem exists_overtaken_run (hus : ∀ u ∈ us, ∃ a, u.compile = .ok a) (hx : Ready db (s, []))
    {i j : Nat} {u v : Update} {a b : Artifacts} (hij : i ≠ j) (hu : us[i]? = some u)
    (ha : u.compile = .ok a) (hv : us[j]? = some v) (hb : v.compile = .ok b) :
    ∃ schedule, Ready db ((together db us s).after serve schedule) ∧
      Pending db ((together db us s).run serve schedule) i
        [(deleteGuardId, a.deleteGuard.map GuardRule.body)] u.finish ∧
      (∀ k t, k ≠ i → ((together db us s).run serve schedule).tasks[k]? = some t →
        ∃ r, t = .done r) ∧
      lastWriter? db writeGuardId ((together db us s).history serve schedule) = some j := by
  let p := together db us s
  obtain ⟨s₀, hi, hj, hothers⟩ := exists_others_done db s hus i j
  have hready := (tracked_together hus hx rfl s₀).ready
  have hu₀ : Pending db (p.run serve s₀) i a.steps u.finish := pending_of_not_mem hi hu ha
  have hv₀ : Pending db (p.run serve s₀) j b.steps v.finish := pending_of_not_mem hj hv hb
  have hsteps : a.steps = [(securityId, some a.descriptor.body),
      (writeGuardId, some a.writeGuard.body)] ++
        [(deleteGuardId, a.deleteGuard.map GuardRule.body)] := a.steps_eq
  rw [hsteps] at hu₀
  -- the first two documents of the update that is to be overtaken
  have haims₁ (step : Step) (hstep : step ∈ [(securityId, some a.descriptor.body),
      (writeGuardId, some a.writeGuard.body)]) :
      Aims (guardGoals db (fun _ => True) a.deleteGuard.isSome) i step := by
    apply aims_guardGoals db _ fun _ => trivial
    rw [hsteps]
    exact List.mem_append_left _ hstep
  obtain ⟨n₁, hu₁, hsettles₁, -⟩ := hu₀.advance haims₁ hready
  -- the whole pass of the other update
  have hv₁ := hv₀.other (List.replicate n₁ i) (by simp [hij.symm])
  rw [← Pool.run_append, ← List.append_nil b.steps] at hv₁
  have haims₂ (step : Step) (hstep : step ∈ b.steps) :
      Aims (guardGoals db (· = j) b.deleteGuard.isSome) j step :=
    aims_guardGoals db hstep fun _ => rfl
  obtain ⟨n₂, hv₂, hsettles₂, hreached₂⟩ := hv₁.advance haims₂ hsettles₁.ready
  -- the first one had no turn meanwhile
  have hu₂ := hu₁.other (List.replicate n₂ j) (by simp [hij])
  rw [← Pool.run_append] at hu₂
  refine ⟨_, hsettles₂.ready, hu₂, ?_, ?_⟩
  · intro k t hki ht
    by_cases hkj : k = j
    · subst hkj
      exact done_of_pending hv₂ ht
    · have hlater : k ∉ List.replicate n₁ i ++ List.replicate n₂ j := by
        simp [hki, hkj]
      rw [List.append_assoc, Pool.run_append, Pool.run_other hlater] at ht
      exact hothers k t hki hkj ht
  · obtain ⟨hwriter, -⟩ := hreached₂ _ (Artifacts.mem_steps.2 (.inr (.inl rfl)))
    obtain ⟨k, hk, rfl⟩ := hwriter rfl
    exact hk

/-- Of any two updates, one can be the last to write the write guard while the other has its way
with the delete guard. -/
theorem exists_divided_run (hus : ∀ u ∈ us, ∃ a, u.compile = .ok a) (hx : Ready db (s, []))
    {i j : Nat} {u v : Update} (hij : i ≠ j) (hu : us[i]? = some u) (hv : us[j]? = some v) :
    ∃ schedule, ((together db us s).run serve schedule).results?.isSome ∧
      lastWriter? db writeGuardId ((together db us s).history serve schedule) = some j ∧
      (((together db us s).run serve schedule).state.document db deleteGuardId).isSome =
        u.isPublic := by
  obtain ⟨a, ha⟩ := hus u (List.mem_of_getElem? hu)
  obtain ⟨b, hb⟩ := hus v (List.mem_of_getElem? hv)
  obtain ⟨before, hready, hpending, hothers, hwriter⟩ :=
    exists_overtaken_run hus hx hij hu ha hv hb
  rw [← List.append_nil [_]] at hpending
  have haims (step : Step) (hstep : step ∈ [(deleteGuardId, a.deleteGuard.map GuardRule.body)]) :
      Aims (guardGoals db (· = j) a.deleteGuard.isSome) i step := by
    rw [List.mem_singleton.1 hstep]
    exact aims_guardGoals db (Artifacts.mem_steps.2 (.inr (.inr rfl)))
      fun h => absurd h deleteGuardId_ne_writeGuardId
  obtain ⟨n, hdone, hsettles, hreached⟩ := hpending.advance haims hready
  refine ⟨before ++ List.replicate n i, Pool.results?_isSome ?_, ?_, ?_⟩
  · intro k t ht
    by_cases hki : k = i
    · subst hki
      exact done_of_pending hdone ht
    · rw [Pool.run_append, Pool.run_other (by simp [hki])] at ht
      exact hothers k t hki ht
  · have hkept := hsettles.keeps writeGuardId
      ⟨fun _ => ⟨j, hwriter, rfl⟩, fun h => absurd h.symm deleteGuardId_ne_writeGuardId⟩
    obtain ⟨k, hk, rfl⟩ := hkept.1 rfl
    exact hk
  · rw [← isSome_deleteGuard ha]
    exact (hreached _ (List.mem_singleton_self _)).2 rfl

/-- The delete guard always follows its own last write. That it follows the last write of the write
guard, once all updates have returned and in whatever order they made their calls, holds exactly if
they all agree on whether anyone may write. -/
theorem delete_guard_follows_iff (hus : ∀ u ∈ us, ∃ a, u.compile = .ok a) (hq : s.Quiet)
    (hex : s.databaseExists db = true)
    (origin_eq : (s.document db deleteGuardId).isSome = origin) :
    (∀ schedule, (((together db us s).run serve schedule).state.document db deleteGuardId).isSome =
      lastPublic us origin db deleteGuardId ((together db us s).history serve schedule)) ∧
    ((∀ schedule, ((together db us s).run serve schedule).results?.isSome →
        (((together db us s).run serve schedule).state.document db deleteGuardId).isSome =
          lastPublic us origin db writeGuardId ((together db us s).history serve schedule)) ↔
      ∀ u ∈ us, ∀ v ∈ us, u.isPublic = v.isPublic) := by
  have hx : Ready db (s, []) := ⟨hq, hex⟩
  have hlive (schedule : List Nat) := (tracked_together hus hx origin_eq schedule).live
  refine ⟨hlive, ?_, ?_⟩
  · intro hall u hu v hv
    obtain ⟨i, hi⟩ := List.mem_iff_getElem?.1 hu
    obtain ⟨j, hj⟩ := List.mem_iff_getElem?.1 hv
    by_cases hij : i = j
    · subst hij
      cases hi.symm.trans hj
      rfl
    · obtain ⟨schedule, hends, hwriter, hsome⟩ := exists_divided_run hus hx hij hi hj
      rw [← hsome, hall schedule hends, lastPublic, hwriter, Option.bind_some, hj]
      rfl
  · intro hagree schedule hends
    cases us with
    | nil => simpa [lastPublic, Pool.after] using hlive schedule
    | cons u rest =>
      obtain ⟨⟨k, hk, hlt⟩, hsome⟩ := guarded_of_agree hus hx
        (fun v hv => hagree v hv u List.mem_cons_self) (List.cons_ne_nil u rest) hends
      rw [hsome, lastPublic, hk, Option.bind_some, List.getElem?_eq_getElem hlt]
      exact hagree u List.mem_cons_self _ (List.getElem_mem hlt)

end Together

def asking (scope : Scope) : Update :=
  ⟨⟨fun _ _ => .ok [], {}⟩, "alice", "app", ⟨some { write := scope }⟩⟩

/-- Two updates that both let anyone write, on a new database. -/
theorem delete_guard_follows_pair :
    (empty.withDatabase "db").Quiet ∧ (empty.withDatabase "db").databaseExists "db" = true ∧
    ((together "db" [asking .anyone, asking .anyone] (empty.withDatabase "db")).run serve
      (roundRobin 2 6)).results?.isSome ∧
    (((together "db" [asking .anyone, asking .anyone] (empty.withDatabase "db")).run serve
      (roundRobin 2 6)).state.document "db" deleteGuardId).isSome =
        lastPublic [asking .anyone, asking .anyone] false "db" writeGuardId
          ((together "db" [asking .anyone, asking .anyone] (empty.withDatabase "db")).history serve
            (roundRobin 2 6)) := by
  have hcompile : ∃ a, (asking .anyone).compile = .ok a := ⟨_, rfl⟩
  have hq := quiet_withDatabase quiet_empty "db"
  have hends : ((together "db" [asking .anyone, asking .anyone] (empty.withDatabase "db")).run serve
      (roundRobin 2 6)).results?.isSome := by decide +kernel
  refine ⟨hq, rfl, hends, ?_⟩
  refine (delete_guard_follows_iff ?_ hq rfl rfl).2.2 ?_ _ hends
  · simpa using hcompile
  · simp

/-- A store with one database, which holds the documents of artifacts without a delete guard. -/
def holding (a : Artifacts) : MemoryStore :=
  { databases := [("db", { security := a.descriptor.body,
                           documents := [(writeGuardId, ⟨1, "1-0", a.writeGuard.body, false⟩)] })] }

/-- One update asks for the scope that is already in force and the other lets anyone write. Taking
turns, both report that all is in place, and the delete guard stands beside the write guard of the
first. -/
theorem delete_guard_beside_owners_write_guard :
    ∃ a, (asking .owner).compile = .ok a ∧ a.deleteGuard = none ∧ (holding a).Quiet ∧
      (holding a).databaseExists "db" = true ∧
      (holding a).document "db" writeGuardId = some a.writeGuard.body ∧
      (holding a).document "db" deleteGuardId = none ∧
      ((together "db" [asking .owner, asking .anyone] (holding a)).run serve
        (roundRobin 2 6)).results?.any (·.all (·.toOption.any (·.isComplete))) = true ∧
      lastWriter? "db" writeGuardId ((together "db" [asking .owner, asking .anyone]
        (holding a)).history serve (roundRobin 2 6)) = some 0 ∧
      (asking .owner).isPublic = false ∧
      (((together "db" [asking .owner, asking .anyone] (holding a)).run serve
        (roundRobin 2 6)).state.document "db" deleteGuardId).isSome = true :=
  ⟨_, rfl, rfl, ⟨rfl, rfl⟩, rfl, rfl, rfl, by decide +kernel, by decide +kernel, rfl,
    by decide +kernel⟩

end Update

end Permits
