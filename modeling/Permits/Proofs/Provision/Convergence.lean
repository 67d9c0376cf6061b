import Mathlib.Logic.ExistsUnique
import Permits.Proofs.Provision.Settling

namespace Permits

open MemoryStore

namespace Artifacts

/-- What a document that permissions are kept in is to hold, none where it is to be absent. -/
def target (a : Artifacts) (id : String) : Option Members :=
  if id = securityId then some a.descriptor.body
  else if id = writeGuardId then some a.writeGuard.body
  else a.deleteGuard.map GuardRule.body

theorem target_of_mem_steps {a : Artifacts} {step : Step} (h : step ∈ a.steps) :
    a.target step.1 = step.2 := by
  rcases mem_steps.1 h with rfl | rfl | rfl <;>
    simp [target, securityId, writeGuardId, deleteGuardId]

def goals (a : Artifacts) (db : String) : Goals db where
  reached id x := x.1.document db id = a.target id
  frame _ _ _ _ h hsame _ := hsame.trans h

theorem aims_goals {a : Artifacts} (db : String) (i : Nat) :
    ∀ step ∈ a.steps, Aims (a.goals db) i step := by
  intro step hstep
  refine ⟨plain_of_mem_steps hstep, retires_of_mem_steps hstep, ?_, ?_⟩
  · intro s h e _ _ hdoc
    exact hdoc.trans (target_of_mem_steps hstep).symm
  · intro hnone x hdoc
    exact hdoc.trans (hnone ▸ (target_of_mem_steps hstep).symm)

end Artifacts

theorem FailurePolicy.enforce_of_isComplete {r : PermissionReport} (h : r.isComplete = true)
    (policy : FailurePolicy) : policy.enforce r = .ok () := by
  have hnone : r.firstFailure? = none := by
    rw [PermissionReport.firstFailure?, List.isEmpty_iff.1 h]
    rfl
  cases policy <;> simp [enforce, hnone]

def Creates (db : String) (i : Nat) (h : List Event) : Prop :=
  ∃ e ∈ h, e.caller = i ∧ e.created db = true

theorem creates_append {db : String} {i : Nat} {h : List Event} {e : Event}
    (he : e.caller = i → e.created db = false) : Creates db i (h ++ [e]) ↔ Creates db i h := by
  constructor
  · rintro ⟨e', hmem, hcaller, hcreated⟩
    rcases List.mem_append.1 hmem with hmem | hmem
    · exact ⟨e', hmem, hcaller, hcreated⟩
    · rw [List.mem_singleton.1 hmem] at hcaller hcreated
      rw [he hcaller] at hcreated
      cases hcreated
  · rintro ⟨e', hmem, h⟩
    exact ⟨e', List.mem_append_left _ hmem, h⟩

theorem not_creates_of_countP {db : String} {h : List Event}
    (hzero : h.countP (Event.created db) = 0) (i : Nat) : ¬ Creates db i h := by
  rintro ⟨e, hmem, -, hcreated⟩
  exact List.countP_eq_zero.1 hzero e hmem hcreated

theorem existsUnique_creates {db : String} {h : List Event}
    (hone : h.countP (Event.created db) = 1) : ∃! i, Creates db i h := by
  rw [List.countP_eq_length_filter] at hone
  obtain ⟨e, he⟩ := List.length_eq_one_iff.1 hone
  have hmem (e' : Event) : e' ∈ h ∧ e'.created db = true ↔ e' = e := by
    rw [← List.mem_filter, he, List.mem_singleton]
  obtain ⟨hin, hcreated⟩ := (hmem e).2 rfl
  refine ⟨e.caller, ⟨e, hin, rfl, hcreated⟩, ?_⟩
  rintro i ⟨e', hin', hcaller, hcreated'⟩
  rw [← hcaller, (hmem e').1 ⟨hin', hcreated'⟩]

/-- What a task allows the others: moves, and nothing in its own name. -/
structure Others {db : String} (g : Goals db) (i : Nat) (x y : Moment) : Prop where
  moves : Moves g x y
  creates : Creates db i y.2 ↔ Creates db i x.2

namespace Provisioner

section Safe

variable {p : Provisioner} {owner db app : String} {options : DatabaseOptions} {a : Artifacts}
  {g : Goals db} {i : Nat} {x : Moment}

theorem others_refl (i : Nat) (x : Moment) : Others g i x x := ⟨Moves.refl g x, Iff.rfl⟩

theorem others_trans (i : Nat) (x y z : Moment) (hxy : Others g i x y) (hyz : Others g i y z) :
    Others g i x z :=
  ⟨hxy.moves.trans hyz.moves, hyz.creates.trans hxy.creates⟩

theorem others_of_call {steps : List Step} {j : Nat} (aims : ∀ step ∈ steps, Aims g i step)
    {c : StoreCall} (hc : ProvisionCall db steps c) (hij : i ≠ j) :
    Others g j x (serve.recording i c x).2 := by
  refine ⟨moves_of_call aims hc x, creates_append ?_⟩
  intro h
  exact absurd h hij

theorem creates_of_passCall {steps : List Step} {c : StoreCall} (hc : PassCall db steps c)
    (i : Nat) (x : Moment) : Creates db i (serve.recording i c x).2.2 ↔ Creates db i x.2 := by
  apply creates_append
  intro _
  cases c with
  | create db' => exact hc.elim
  | destroy db' => rfl
  | get db' id => rfl
  | insert db' id body rev => rfl

theorem safe_ensureDatabase (hq : x.1.Quiet) (hnone : ¬ Creates db i x.2) :
    (ensureDatabase db).Safe (serve.recording i) (Others g i)
      (fun r y => ∃ status, r = .ok status ∧ Ready db y ∧
        (status = .created ↔ Creates db i y.2)) x := by
  intro y hxy
  have hy := (hxy.moves hq).1
  have hynone : ¬ Creates db i y.2 := fun h => hnone (hxy.creates.1 h)
  cases hex : y.1.databaseExists db with
  | true =>
    simp only [Service.recording, serve_create hy, hex, if_true]
    intro z hz
    have hmoves := (moves_of_same fun _ => rfl).trans hz.moves
    refine ⟨_, rfl, (hmoves.settles ⟨hy, hex⟩).ready, ?_⟩
    rw [hz.creates, creates_append fun _ => rfl]
    constructor
    · intro h
      cases h
    · exact fun h => absurd h hynone
  | false =>
    simp only [Service.recording, serve_create hy, hex]
    intro z hz
    have hready : Ready db (y.1.withDatabase db, y.2 ++ [⟨i, .create db, .ok ()⟩]) :=
      ⟨quiet_withDatabase hy db, databaseExists_withDatabase y.1 db⟩
    refine ⟨_, rfl, (hz.moves.settles hready).ready, ?_⟩
    rw [hz.creates]
    exact ⟨fun _ => ⟨_, List.mem_append_right _ List.mem_cons_self, rfl, by simp [Event.created]⟩,
      fun _ => rfl⟩

/-- A provision that others do not hinder ends with a complete report and all documents in place. -/
theorem safe_provision (ha : p.compile owner app options = .ok a)
    (aims : ∀ step ∈ a.steps, Aims g i step) (hq : x.1.Quiet) (hnone : ¬ Creates db i x.2) :
    (p.provision owner db app options).Safe (serve.recording i) (Others g i)
      (fun r y => (∃ report, r = .ok report ∧ report.permissions.isComplete = true ∧
          (report.databaseStatus = .created ↔ Creates db i y.2)) ∧
        ∀ step ∈ a.steps, g.reached step.1 y) x := by
  unfold provision
  rw [ha]
  apply (safe_ensureDatabase hq hnone).bind (others_refl i)
  rintro r y ⟨status, rfl, hy, hstatus⟩
  have hpass := (safe_applyPermissions (fun _ _ h => h.moves) (others_refl i) aims hy).remember
    (fun y z : Moment => Creates db i z.2 ↔ Creates db i y.2)
    (fun _ _ _ hxy hyz => Iff.trans hyz hxy) (fun _ _ h => h.creates)
    (fun c z hc => creates_of_passCall hc i z) (asks_applyPermissions db a) Iff.rfl
  apply hpass.bind (others_refl i)
  rintro report z ⟨⟨hcomplete, hz, hgoals⟩, hcreates⟩ u hu
  rw [FailurePolicy.enforce_of_isComplete hcomplete]
  refine ⟨⟨_, rfl, hcomplete, ?_⟩, ?_⟩
  · rw [hstatus, ← hcreates]
    exact hu.creates.symm
  · intro step hstep
    exact (hu.moves.settles hz).keeps _ (hgoals step hstep)

end Safe

/-- What holds of a store all along while tasks perform steps on one database. -/
structure Kept (db : String) (steps : List Step) (s : MemoryStore) (x : Moment) : Prop where
  quiet : x.1.Quiet
  frame : ∀ other, other ≠ db → x.1.databases.find? other = s.databases.find? other
  others : ∀ id, (∀ step ∈ steps, id ≠ step.1) → x.1.stored db id = s.stored db id
  creations : x.2.countP (Event.created db) + (s.databaseExists db).toNat =
    (x.1.databaseExists db).toNat

theorem kept_start {s : MemoryStore} (hq : s.Quiet) (db : String) (steps : List Step) :
    Kept db steps s (s, []) :=
  ⟨hq, fun _ _ => rfl, fun _ _ => rfl, Nat.zero_add _⟩

theorem Kept.call {db : String} {steps : List Step} {s : MemoryStore} {x : Moment}
    (h : Kept db steps s x) (i : Nat) {c : StoreCall} (hc : ProvisionCall db steps c) :
    Kept db steps s (serve.recording i c x).2 := by
  have hout := outcome_of_call h.quiet i hc
  generalize (serve.recording i c x).2 = y at hout ⊢
  have hcreations := h.creations
  cases hout with
  | same e _ _ hcreated =>
    refine ⟨h.quiet, h.frame, h.others, ?_⟩
    rw [List.countP_append, List.countP_singleton, hcreated]
    exact hcreations
  | made hex =>
    refine ⟨quiet_withDatabase h.quiet db, ?_, ?_, ?_⟩
    · intro other hother
      rw [find?_withDatabase_of_ne hother, h.frame other hother]
    · intro id hid
      rw [stored_withDatabase hex, h.others id hid]
    · rw [hex] at hcreations
      rw [List.countP_append, List.countP_singleton, databaseExists_withDatabase]
      simp only [Event.created, decide_true, if_true, Bool.toNat_true]
      simp only [Bool.toNat_false] at hcreations
      omega
  | wrote step hstep rev r hex =>
    refine ⟨quiet_written h.quiet .., ?_, ?_, ?_⟩
    · intro other hother
      rw [find?_written_of_ne hother, h.frame other hother]
    · intro id hid
      rw [stored_written_of_ne (hid step hstep), h.others id hid]
    · rw [List.countP_append, List.countP_singleton, databaseExists_written]
      exact hcreations

/-- The same provisioner with another verdict on failures. -/
def onFailure (p : Provisioner) (f : FailurePolicy) : Provisioner :=
  { p with settings := { p.settings with onProvision := f } }

/-- What provisions of one database with the same artifacts are to come to. -/
structure Converged (a : Artifacts) (db : String) (s s' : MemoryStore)
    (rs : List (Except ProvisionError ProvisionReport)) : Prop where
  complete : ∀ r ∈ rs, ∃ report, r = .ok report ∧ report.permissions.isComplete = true
  /-- Exactly one answer says that it made a database that was not there. -/
  made : s.databaseExists db = false →
    ∃! i : Nat, ∃ report : ProvisionReport,
      rs[i]? = some (.ok report) ∧ report.databaseStatus = .created
  found : s.databaseExists db = true →
    ∀ report : ProvisionReport, Except.ok report ∈ rs → report.databaseStatus = .alreadyExisted
  descriptor : s'.document db securityId = some a.descriptor.body
  writeGuard : s'.document db writeGuardId = some a.writeGuard.body
  deleteGuard : s'.document db deleteGuardId = a.deleteGuard.map GuardRule.body
  others : ∀ id, id ≠ securityId → id ≠ writeGuardId → id ≠ deleteGuardId →
    s'.stored db id = s.stored db id
  frame : ∀ other, other ≠ db → s'.databases.find? other = s.databases.find? other

/-- Provisions of one database, each with its own verdict on failures, before their first calls. -/
def together (p : Provisioner) (owner db app : String) (options : DatabaseOptions)
    (policies : List FailurePolicy) (s : MemoryStore) :
    Pool MemoryStore (Except ProvisionError ProvisionReport) :=
  .start s (policies.map fun f => (p.onFailure f).provision owner db app options)

section Together

variable {p : Provisioner} {owner db app : String} {options : DatabaseOptions} {a : Artifacts}
  {policies : List FailurePolicy} {s : MemoryStore} {schedule : List Nat}
  {rs : List (Except ProvisionError ProvisionReport)}

theorem length_together :
    (p.together owner db app options policies s).tasks.length = policies.length :=
  Pool.length_tasks_start ..

theorem asks_together (ha : p.compile owner app options = .ok a) :
    Pool.Each (p.together owner db app options policies s).tasks fun _ t =>
      ∃ n, t.Asks (ProvisionCall db a.steps) n :=
  Pool.Each.start s fun _ f _ =>
    ⟨7, Task.asks_settle.2 (asks_provision (p := p.onFailure f) ha db)⟩

theorem results?_together (ha : p.compile owner app options = .ok a)
    (turns : ∀ i < policies.length, 7 ≤ schedule.count i) :
    ((p.together owner db app options policies s).run serve schedule).results?.isSome := by
  apply Pool.results?_isSome
  intro i t ht
  have hi : i < policies.length := by
    rw [← length_together (p := p) (s := s), ← Pool.length_tasks_run]
    exact (List.getElem?_eq_some_iff.1 ht).1
  have hstart : (p.together owner db app options policies s).tasks[i]? =
      some ((p.onFailure policies[i]).provision owner db app options).settle.1 := by
    rw [together, Pool.getElem?_tasks_start, List.getElem?_eq_getElem hi]
    rfl
  have hasks := asks_provision (p := p.onFailure policies[i]) ha db
  obtain ⟨r, hr⟩ := Pool.run_done hstart hasks (turns i hi)
  exact ⟨r, Option.some.inj (ht.symm.trans hr)⟩

theorem length_results_together
    (hrs : ((p.together owner db app options policies s).run serve schedule).results? = some rs) :
    rs.length = policies.length := by
  rw [Pool.length_of_results? hrs, Pool.length_tasks_run, length_together]

theorem kept_together (ha : p.compile owner app options = .ok a) (hq : s.Quiet)
    (schedule : List Nat) :
    Kept db a.steps s ((p.together owner db app options policies s).after serve schedule) :=
  Pool.run_invariant (Kept db a.steps s) (fun i _ _ hc hx => hx.call i hc) _ [] (asks_together ha)
    (kept_start hq db a.steps) schedule

/-- Each provision that returned has answered well and has left its documents in place. -/
theorem answer_together (ha : p.compile owner app options = .ok a) (hq : s.Quiet)
    (hrs : ((p.together owner db app options policies s).run serve schedule).results? = some rs)
    {i : Nat} {r : Except ProvisionError ProvisionReport} (hr : rs[i]? = some r) :
    (∃ report, r = .ok report ∧ report.permissions.isComplete = true ∧
      (report.databaseStatus = .created ↔
        Creates db i ((p.together owner db app options policies s).history serve schedule))) ∧
    ∀ step ∈ a.steps, ((p.together owner db app options policies s).run serve
      schedule).state.document db step.1 = step.2 := by
  have haims (i : Nat) := a.aims_goals db i
  have hsafe := Pool.run_safe others_refl others_trans
    (fun i j c x hij hc => others_of_call (haims i) hc hij)
    (p.together owner db app options policies s) [] (asks_together ha)
    (Pool.Each.start s fun i f _ => Task.safe_settle.2
      (safe_provision (p := p.onFailure f) ha (haims i) hq nofun)) schedule
  obtain ⟨hanswer, hreached⟩ := Pool.post_of_results? others_refl hsafe hrs hr
  refine ⟨hanswer, ?_⟩
  intro step hstep
  exact (hreached step hstep).trans (Artifacts.target_of_mem_steps hstep)

/-- A provision reports a new database just when it made it. -/
theorem reports_iff_creates (ha : p.compile owner app options = .ok a) (hq : s.Quiet)
    (hrs : ((p.together owner db app options policies s).run serve schedule).results? = some rs)
    (i : Nat) :
    (∃ report : ProvisionReport, rs[i]? = some (.ok report) ∧ report.databaseStatus = .created) ↔
      Creates db i ((p.together owner db app options policies s).history serve schedule) := by
  constructor
  · rintro ⟨report, hr, hstatus⟩
    obtain ⟨⟨report', hok, -, hiff⟩, -⟩ := answer_together ha hq hrs hr
    cases hok
    exact hiff.1 hstatus
  · intro hcreates
    have hi : i < rs.length := by
      obtain ⟨e, he, rfl, -⟩ := hcreates
      rw [length_results_together hrs, ← length_together (p := p) (s := s)]
      exact Pool.caller_lt_of_mem_history he
    have hr := List.getElem?_eq_getElem hi
    obtain ⟨⟨report, hok, -, hiff⟩, -⟩ := answer_together ha hq hrs hr
    exact ⟨report, hok ▸ hr, hiff.2 hcreates⟩

/-- Provisions of one database that run at the same time all succeed, and leave behind what one of
them alone would, whatever the order of their calls. -/
theorem together_converge (ha : p.compile owner app options = .ok a) (hq : s.Quiet)
    (hne : policies ≠ []) (schedule : List Nat) :
    let pool := (p.together owner db app options policies s).run serve schedule
    ((∀ i < policies.length, 7 ≤ schedule.count i) → pool.results?.isSome) ∧
    ∀ rs, pool.results? = some rs →
      rs.length = policies.length ∧ Converged a db s pool.state rs := by
  intro pool
  refine ⟨results?_together ha, ?_⟩
  intro rs hrs
  have hlen := length_results_together hrs
  have hkept : Kept db a.steps s (pool.state, _) := kept_together ha hq schedule
  have hlast (step : Step) (hstep : step ∈ a.steps) :
      pool.state.document db step.1 = step.2 := by
    have hpos : 0 < rs.length := by
      rw [hlen]
      exact List.length_pos_iff.2 hne
    exact (answer_together ha hq hrs (List.getElem?_eq_getElem hpos)).2 step hstep
  have hsecurity := hlast _ (Artifacts.mem_steps.2 (.inl rfl))
  have hcreations := hkept.creations
  rw [databaseExists_of_document hsecurity] at hcreations
  refine ⟨hlen, ?_, ?_, ?_, hsecurity, ?_, ?_, ?_, hkept.frame⟩
  · intro r hr
    obtain ⟨i, hi⟩ := List.mem_iff_getElem?.1 hr
    obtain ⟨⟨report, rfl, hcomplete, -⟩, -⟩ := answer_together ha hq hrs hi
    exact ⟨report, rfl, hcomplete⟩
  · intro hmissing
    rw [hmissing] at hcreations
    simp only [reports_iff_creates ha hq hrs]
    exact existsUnique_creates hcreations
  · intro hexist report hr
    rw [hexist] at hcreations
    obtain ⟨i, hi⟩ := List.mem_iff_getElem?.1 hr
    have hnot := not_creates_of_countP (Nat.add_right_cancel hcreations) i
    cases hstatus : report.databaseStatus with
    | created => exact absurd ((reports_iff_creates ha hq hrs i).1 ⟨report, hi, hstatus⟩) hnot
    | alreadyExisted => rfl
  · exact hlast _ (Artifacts.mem_steps.2 (.inr (.inl rfl)))
  · exact hlast _ (Artifacts.mem_steps.2 (.inr (.inr rfl)))
  · intro id hsec hwrite hdelete
    apply hkept.others
    intro step hstep
    rcases Artifacts.mem_steps.1 hstep with rfl | rfl | rfl
    · exact hsec
    · exact hwrite
    · exact hdelete

/-- Two provisions under a policy that wants a delete guard, on a store without databases. -/
theorem together_converge_pair :
    ∃ a rs,
      (⟨fun _ _ => .ok [], {}⟩ : Provisioner).compile "alice" "app" ⟨some { write := .anyone }⟩ =
        .ok a ∧
      (((⟨fun _ _ => .ok [], {}⟩ : Provisioner).together "alice" "db" "app"
        ⟨some { write := .anyone }⟩ [.bestEffort, .strict] .empty).run serve
          (roundRobin 2 7)).results? = some rs ∧
      rs.length = 2 ∧
      Converged a "db" .empty (((⟨fun _ _ => .ok [], {}⟩ : Provisioner).together "alice" "db" "app"
        ⟨some { write := .anyone }⟩ [.bestEffort, .strict] .empty).run serve
          (roundRobin 2 7)).state rs := by
  have ha : (⟨fun _ _ => .ok [], {}⟩ : Provisioner).compile "alice" "app"
      ⟨some { write := .anyone }⟩ = .ok _ := rfl
  obtain ⟨hends, hconverge⟩ := @together_converge _ "alice" "db" _ _ _ _ _ ha quiet_empty
    (List.cons_ne_nil .bestEffort [.strict]) (roundRobin 2 7)
  obtain ⟨rs, hrs⟩ := Option.isSome_iff_exists.1 (hends (by decide))
  exact ⟨_, rs, ha, hrs, hconverge rs hrs⟩

end Together

end Provisioner

end Permits
