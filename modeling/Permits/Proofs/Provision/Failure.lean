import Permits.Proofs.Provision.Errands
import Permits.Proofs.Provision.Repair
import Permits.Proofs.Store.Faults
import Permits.Proofs.Store.Interference

namespace Permits

open MemoryStore

/-- More failures have been put in the way, all of them failures to their callers. -/
def Troubled (s s' : MemoryStore) : Prop := s.Genuine → s'.Genuine ∧ s'.calm = s.calm

theorem Troubled.refl (s : MemoryStore) : Troubled s s := fun hs => ⟨hs, rfl⟩

def Step.effects (db : String) (s : MemoryStore) (steps : List Step) : MemoryStore :=
  steps.foldl (fun s step => step.effect db s) s

section Steps

variable {db : String} {s s' : MemoryStore} {a : Artifacts} {step : Step} {steps : List Step}

theorem performed_effects (hq : s.Quiet) (hex : s.databaseExists db = true)
    (hsteps : ∀ step ∈ steps, step ∈ a.steps) (hne : steps.Pairwise fun x y => y.1 ≠ x.1) :
    Performed db steps s (Step.effects db s steps) := by
  induction steps generalizing s with
  | nil => exact performed_nil hq hex
  | cons step rest ih =>
    obtain ⟨hfirst, hrest⟩ := List.pairwise_cons.1 hne
    have hstep := performed_effect hq hex (hsteps step List.mem_cons_self)
    have hothers := ih hstep.quiet hstep.exist
      (fun other h => hsteps other (List.mem_cons_of_mem step h)) hrest
    exact hstep.cons hothers hfirst

theorem databaseExists_effect (s : MemoryStore) (step : Step) (other : String) :
    (step.effect db s).databaseExists other = s.databaseExists other := by
  unfold Step.effect
  split
  · exact databaseExists_written ..
  · rfl

/-- What a step comes to, from the store that it begins with: it reached its document, or it failed
and wrote nothing. A document is installed only in a database that is there. -/
def Step.Concluded (step : Step) (db : String) (s : MemoryStore) (r : Except StoreError Status)
    (x : MemoryStore) : Prop :=
  x.Genuine ∧ match r with
    | .ok _ => x.calm = step.effect db s.calm ∧
        (step.2.isSome = true → s.databaseExists db = true)
    | .error _ => x.calm = s.calm

theorem Step.Concluded.safe {r : Except StoreError Status} (h : step.Concluded db s r s') :
    (Task.done r).Safe serve Troubled (step.Concluded db s) s' := by
  intro x hx
  obtain ⟨hgenuine, hcalm⟩ := hx h.1
  refine ⟨hgenuine, ?_⟩
  rw [hcalm]
  exact h.2

/-- The writing half of a step, whatever failures have come since its document was read. -/
theorem safe_stepWrite (h : step.Sound) (hs : s.Genuine) (hw : step.writes db s.calm = true)
    (hs' : s'.Genuine) (hcalm : s'.calm = s.calm) :
    (Task.call (.insert db step.1 (.object (stepBody step)) (s.calm.currentRev db step.1))
      fun answer => .done (step.conclude (s.calm.currentRev db step.1) answer)).Safe serve Troubled
        (step.Concluded db s) s' := by
  have hq := hs.quiet_calm
  intro x hx
  obtain ⟨hx, hcalmx⟩ := hx hs'
  have hcalmx : x.calm = s.calm := hcalmx.trans hcalm
  obtain ⟨e, y, hdelivered, hserve⟩ | hwrite := serve_delivered_or_calmly hx.races
    (.insert db step.1 (.object (stepBody step)) (s.calm.currentRev db step.1))
  · obtain ⟨hsignal, hy⟩ := hx.delivered hdelivered
    obtain ⟨-, -, hconflict⟩ := StoreError.isSignal_eq_false.1 hsignal
    have hconclude : step.conclude (s.calm.currentRev db step.1) (.error e) = .error e := by
      simp [Step.conclude, hconflict]
    rw [hserve]
    simp only [StoreCall.refused, hconclude]
    exact Step.Concluded.safe ⟨hy, hdelivered.calm_eq.trans hcalmx⟩
  · have hy := hx.of_calmly hwrite
    have hanswer := hwrite.answer
    have hstate := hwrite.state
    rw [hcalmx] at hanswer hstate
    rw [hanswer]
    cases hex : s.databaseExists db with
    | true =>
      have haccepts := h.accepts (s := s.calm) hex hw
      rw [serve_insert_of_accepts hq haccepts] at hstate ⊢
      simp only [conclude_eq_ending hw]
      refine Step.Concluded.safe ⟨hy, ?_, fun _ => hex⟩
      rw [hstate, Step.effect, hw, if_pos rfl]
    | false =>
      rw [serve_insert_missing hq hex] at hstate ⊢
      exact Step.Concluded.safe ⟨hy, hstate⟩

/-- Whatever failures get in the way of a step, before it or between its calls. -/
theorem safe_performStep_failing (h : step.Sound) (hs : s.Genuine) :
    (performStep db step).Safe serve Troubled (step.Concluded db s) s := by
  have hq := hs.quiet_calm
  rw [performStep_eq]
  intro x hx
  obtain ⟨hx, hcalm⟩ := hx hs
  obtain ⟨e, y, hdelivered, hserve⟩ | hread := serve_delivered_or_calmly hx.races (.get db step.1)
  · obtain ⟨hsignal, hy⟩ := hx.delivered hdelivered
    obtain ⟨-, hfound, -⟩ := StoreError.isSignal_eq_false.1 hsignal
    have hjudge : step.judge (.error e) = .error (.error e) := by simp [Step.judge, hfound]
    rw [hserve]
    simp only [StoreCall.refused, hjudge]
    exact Step.Concluded.safe ⟨hy, hdelivered.calm_eq.trans hcalm⟩
  · have hy := hx.of_calmly hread
    have hstate : (serve (.get db step.1) x).2.calm = s.calm := by
      rw [hread.state, hcalm, serve_get_state hq]
    rw [hread.answer, hcalm]
    simp only [h.judge_eq hq db]
    cases hw : step.writes db s.calm with
    | true => exact safe_stepWrite h hs hw hy hstate
    | false =>
      refine Step.Concluded.safe ⟨hy, ?_, fun hsome => ?_⟩
      · rw [hstate, Step.effect, hw, if_neg Bool.false_ne_true]
      · rw [Step.writes, hsome, Bool.true_or] at hw
        cases hw

/-- How far a pass over some steps came: it reached the documents of the first ones, and there is a
warning for the first that is left. -/
def Advanced (db : String) (steps : List Step) (s : MemoryStore) (r : PermissionReport)
    (x : MemoryStore) : Prop :=
  x.Genuine ∧ r.database = db ∧ ∃ done rest, steps = done ++ rest ∧
    x.calm = Step.effects db s.calm done ∧
    (∀ step ∈ done, step.2.isSome = true → s.databaseExists db = true) ∧
    r.warnings.map (·.documentId) = rest.head?.toList.map (·.1)

theorem Advanced.safe {r : PermissionReport} (h : Advanced db steps s r s') :
    (Task.done r).Safe serve Troubled (Advanced db steps s) s' := by
  obtain ⟨hs', hdb, done, rest, hsteps, hcalm, hrest⟩ := h
  intro x hx
  obtain ⟨hx, hcalmx⟩ := hx hs'
  exact ⟨hx, hdb, done, rest, hsteps, hcalmx.trans hcalm, hrest⟩

theorem Advanced.cons {status : Status} {x : MemoryStore} {r : PermissionReport}
    (hstep : step.Concluded db s (.ok status) s') (hrest : Advanced db steps s' r x) :
    Advanced db (step :: steps) s r x := by
  obtain ⟨-, hcalm, hexist⟩ := hstep
  obtain ⟨hx, hdb, done, rest, hsteps, hcalmx, hinstalls, hwarnings⟩ := hrest
  have hsame : s'.databaseExists db = s.databaseExists db := by
    have heffect := @databaseExists_effect db s.calm step db
    rw [← hcalm] at heffect
    exact heffect
  refine ⟨hx, hdb, step :: done, rest, by rw [hsteps, List.cons_append], ?_, ?_, hwarnings⟩
  · rw [hcalmx, hcalm]
    rfl
  · intro other hother hsome
    rcases List.mem_cons.1 hother with rfl | hother
    · exact hexist hsome
    · rw [← hsame]
      exact hinstalls other hother hsome

theorem database_foldl_record (steps : List Step) (r : PermissionReport) (status : Status) :
    (steps.foldl (fun r s => r.record s.1 status) r).database = r.database := by
  induction steps generalizing r with
  | nil => rfl
  | cons step rest ih => exact ih (r.record step.1 status)

/-- By induction on the steps; a failure leaves what the steps before it have reached. -/
theorem safe_performSteps_failing (hsound : ∀ step ∈ steps, step.Sound) (hs : s.Genuine)
    {r : PermissionReport} (hdb : r.database = db) (hr : r.warnings = []) :
    (performSteps db steps r).Safe serve Troubled (Advanced db steps s) s := by
  induction steps generalizing s r with
  | nil => exact Advanced.safe ⟨hs, hdb, [], [], rfl, rfl, nofun, by rw [hr]; rfl⟩
  | cons step rest ih =>
    rw [performSteps_cons]
    apply (safe_performStep_failing (hsound step List.mem_cons_self) hs).bind Troubled.refl
    intro result x hx
    cases result with
    | ok status =>
      have hothers := ih (fun other h => hsound other (List.mem_cons_of_mem step h)) hx.1
        (r := r.record step.1 status) hdb hr
      exact (safe_countStatus _ _).2 (hothers.weaken fun _ _ hrest => hrest.cons hx)
    | error e =>
      refine (safe_countStatus _ _).2 (Advanced.safe ⟨hx.1, ?_, [], _, rfl, hx.2, nofun, ?_⟩)
      · rw [database_foldl_record]
        exact hdb
      · rw [warnings_foldl_record]
        simp [PermissionReport.recordFailure, PermissionReport.record, hr]

/-- A failure that comes once the security object is written stops the pass at the write guard. -/
example :
    let p : Provisioner := ⟨hashedTranslator, {}⟩
    let pass := (p.compile "alice" "app" ⟨none⟩).toOption.map (applyPermissions "db")
    let begun := (Pool.start (empty.withDatabase "db") pass.toList).run serve [0, 0]
    let late := { begun with state := begun.state.failNext .get (.transport "late") }
    (late.run serve [0]).results?.map (·.map (·.warnings)) =
      some [[⟨writeGuardId, .transport "late"⟩]] := by decide +kernel

end Steps

/-- What a pass leaves behind that stopped at a document, from the store that it began with. The
documents before that one hold what they should, and nothing else has changed. -/
structure Stopped (a : Artifacts) (db id : String) (s s' : MemoryStore) : Prop where
  order : ∃ earlier later, [securityId, writeGuardId, deleteGuardId] = earlier ++ id :: later ∧
    (∀ done ∈ earlier, s'.document db done = a.target done) ∧
    (∀ left ∈ id :: later, s'.document db left = s.document db left ∧
      s'.stored db left = s.stored db left) ∧
    s'.writes = s.writes + earlier.length
  others : ∀ other, other ≠ securityId → other ≠ writeGuardId → other ≠ deleteGuardId →
    s'.stored db other = s.stored db other
  frame : ∀ other, other ≠ db → s'.databases.find? other = s.databases.find? other
  exist : s'.databaseExists db = s.databaseExists db

section Passes

variable {db : String} {s x : MemoryStore} {a : Artifacts} {r : PermissionReport}

theorem stopped_at_first (h : x.calm = s.calm) : Stopped a db securityId s x := by
  have hdatabases : x.databases = s.databases := (congrArg MemoryStore.databases h :)
  have hwrites : x.writes = s.writes := (congrArg MemoryStore.writes h :)
  have hdocument (id : String) : x.document db id = s.document db id := by
    rw [document, document, hdatabases]
  have hstored (id : String) : x.stored db id = s.stored db id := by
    rw [stored, stored, hdatabases]
  refine ⟨⟨[], [writeGuardId, deleteGuardId], rfl, ?_, ?_, hwrites⟩, ?_, ?_, ?_⟩
  · exact fun _ hdone => absurd hdone List.not_mem_nil
  · exact fun id _ => ⟨hdocument id, hstored id⟩
  · exact fun other _ _ _ => hstored other
  · exact fun other _ => by rw [hdatabases]
  · rw [databaseExists, databaseExists, hdatabases]

theorem stopped_of_performed {done rest : List Step} {step : Step}
    (hsteps : a.steps = done ++ step :: rest) (h : Performed db done s.calm x.calm)
    (hex : s.databaseExists db = true) : Stopped a db step.1 s x := by
  have hids : done.map (·.1) ++ step.1 :: rest.map (·.1) =
      [securityId, writeGuardId, deleteGuardId] := by
    have hmap := congrArg (List.map (·.1)) hsteps
    rw [Artifacts.steps_eq, List.map_append, List.map_cons] at hmap
    exact hmap.symm
  have hnodup : (done.map (·.1) ++ step.1 :: rest.map (·.1)).Nodup := by
    rw [hids]
    decide
  have hunread (left : String) (hleft : left ∈ step.1 :: rest.map (·.1)) :
      ∀ other ∈ done, left ≠ other.1 := by
    intro other hother heq
    exact (List.nodup_append.1 hnodup).2.2 other.1 (List.mem_map_of_mem hother) left hleft heq.symm
  -- the delete guard comes last, so no step that was performed can have been a retirement
  have hlast : deleteGuardId ∈ step.1 :: rest.map (·.1) := by
    have hend := congrArg List.getLast? hids
    rw [List.getLast?_append, List.getLast?_cons, Option.some_or, ← List.getLast?_cons] at hend
    exact List.mem_of_getLast? hend
  refine ⟨⟨done.map (·.1), rest.map (·.1), hids.symm, ?_, ?_, ?_⟩, ?_, h.frame, ?_⟩
  · intro id hid
    obtain ⟨other, hother, rfl⟩ := List.mem_map.1 hid
    have hmem : other ∈ a.steps := hsteps ▸ List.mem_append_left _ hother
    exact (h.documents other hother).trans (Artifacts.target_of_mem_steps hmem).symm
  · intro left hleft
    exact ⟨h.unread left (hunread left hleft), h.others left (hunread left hleft)⟩
  · have hinstalls : ∀ other ∈ done, Step.writes db s.calm other = true := by
      intro other hother
      have hmem : other ∈ a.steps := hsteps ▸ List.mem_append_left _ hother
      rcases Artifacts.mem_steps.1 hmem with rfl | rfl | rfl
      · rfl
      · rfl
      · exact absurd rfl (hunread deleteGuardId hlast _ hother)
    have hwrites := h.writes
    rw [List.countP_eq_length.2 hinstalls] at hwrites
    rw [List.length_map]
    exact hwrites
  · intro other hsecurity hwrite hdelete
    apply h.others
    intro step' hstep'
    have hmem : step' ∈ a.steps := hsteps ▸ List.mem_append_left _ hstep'
    rcases Artifacts.mem_steps.1 hmem with rfl | rfl | rfl
    · exact hsecurity
    · exact hwrite
    · exact hdelete
  · exact h.exist.trans hex.symm

theorem Advanced.stopped (hs : s.Genuine) (h : Advanced db a.steps s r x) {w : Warning}
    (hw : r.firstFailure? = some w) : Stopped a db w.documentId s x := by
  obtain ⟨-, -, done, rest, hsteps, hcalm, hinstalls, hwarnings⟩ := h
  obtain ⟨others, hr⟩ := List.head?_eq_some_iff.1 hw
  rw [hr] at hwarnings
  obtain _ | ⟨step, rest⟩ := rest
  · cases hwarnings
  have hid : w.documentId = step.1 := (List.cons.inj hwarnings).1
  rw [hid]
  obtain _ | ⟨first, done⟩ := done
  · rw [Artifacts.steps_eq] at hsteps
    obtain ⟨hstep, -⟩ := List.cons.inj hsteps
    rw [← hstep]
    exact stopped_at_first hcalm
  · have hfirst : first = (securityId, some a.descriptor.body) := by
      rw [Artifacts.steps_eq] at hsteps
      exact (List.cons.inj hsteps).1.symm
    have hex := hinstalls first List.mem_cons_self (hfirst ▸ rfl)
    have hne : a.steps.Pairwise fun x y => y.1 ≠ x.1 := by
      simp [Artifacts.steps_eq, securityId, writeGuardId, deleteGuardId]
    have hperformed := performed_effects (a := a) hs.quiet_calm hex
      (fun other h => hsteps ▸ List.mem_append_left _ h)
      (List.pairwise_append.1 (hsteps ▸ hne)).1
    rw [← hcalm] at hperformed
    exact stopped_of_performed hsteps hperformed hex

/-- A pass that stops leaves the document that it names, and those after it, as they were. -/
theorem run_applyPermissions_stopped (hs : s.Genuine) (db : String) (a : Artifacts) {w : Warning}
    (hw : ((applyPermissions db a).run serve s).1.firstFailure? = some w) :
    ((applyPermissions db a).run serve s).1.database = db ∧
      Stopped a db w.documentId s ((applyPermissions db a).run serve s).2.1 := by
  have hsafe := safe_performSteps_failing (fun _ => Artifacts.sound_of_mem_steps (a := a)) hs
    (r := { database := db }) rfl rfl
  have hreached := hsafe.run Troubled.refl
  exact ⟨hreached.2.1, hreached.stopped hs hw⟩

end Passes

namespace Errand

def artifacts? : Errand → Option Artifacts
  | provision p owner _ app options => (p.compile owner app options).toOption
  | update p owner _ app options => (p.compile owner app options).toOption
  | deprovision _ => none

/-- The store in which the pass of an errand begins: a provision makes its database first, empty. -/
def prepared (s : MemoryStore) : Errand → MemoryStore
  | provision _ _ db _ _ => if s.databaseExists db then s else s.withDatabase db
  | _ => s

def Answer.error? : Answer → Option ProvisionError
  | .provisioned (.error e) => some e
  | .updated (.error e) => some e
  | .deprovisioned (.error e) => some e
  | _ => none

/-- What an errand that fails leaves behind. -/
inductive Aftermath (e : Errand) (s : MemoryStore) : ProvisionError → MemoryStore → Prop where
  | refused (cause : PolicyError) : Aftermath e s (.policy cause) s
  | undone (op : Operation) (cause : StoreError) (s' : MemoryStore) (h : Delivered op cause s s') :
      Aftermath e s (.store cause) s'
  | stopped (a : Artifacts) (ha : e.artifacts? = some a) (id : String) (cause : StoreError)
      (s' : MemoryStore) (h : Stopped a e.database id (e.prepared s) s') :
      Aftermath e s (.notApplied e.database id cause) s'

end Errand

section Errands

variable {s : MemoryStore} {e : Errand} {cause : ProvisionError}

theorem enforce_eq_error {policy : FailurePolicy} {r : PermissionReport}
    (h : policy.enforce r = .error cause) :
    ∃ w, r.firstFailure? = some w ∧ cause = .notApplied r.database w.documentId w.error := by
  unfold FailurePolicy.enforce at h
  split at h
  · next w hw =>
    cases h
    exact ⟨w, hw, rfl⟩
  · cases h

theorem genuine_prepared (hs : s.Genuine) (e : Errand) : (e.prepared s).Genuine := by
  cases e with
  | provision p owner db app options =>
    simp only [Errand.prepared]
    split
    · exact hs
    · exact ⟨hs.faults, hs.races⟩
  | update p owner db app options => exact hs
  | deprovision db => exact hs

theorem run_ensureDatabase_failing (hs : s.Genuine) (db : String) :
    (∃ e s', Delivered .create e s s' ∧
      (Provisioner.ensureDatabase db).run serve s = (.error e, s', [])) ∨
    ∃ status ks, (Provisioner.ensureDatabase db).run serve s =
      (.ok status, if s.databaseExists db then s else s.withDatabase db, ks) := by
  obtain ⟨e, s', hdelivered, hserve⟩ | ⟨-, hserve⟩ := faulty_delivered .create s (create db)
  · obtain ⟨hexists, -⟩ := StoreError.isSignal_eq_false.1 (hs.delivered hdelivered).1
    refine .inl ⟨e, s', hdelivered, ?_⟩
    simp [Provisioner.ensureDatabase, Task.create, bind, Task.bind, Task.run, serve, hserve, pure,
      hexists]
  · have hcreate : s.create db = if s.databaseExists db then (.error (.alreadyExists db), s)
        else (.ok (), s.withDatabase db) := rfl
    right
    cases hex : s.databaseExists db with
    | true =>
      refine ⟨.alreadyExisted, [], ?_⟩
      simp [Provisioner.ensureDatabase, Task.create, bind, Task.bind, Task.run, serve, hserve,
        hcreate, hex, pure, StoreError.isAlreadyExists]
    | false =>
      refine ⟨.created, [.created], ?_⟩
      simp [Provisioner.ensureDatabase, Task.create, bind, Task.bind, Task.run, serve, hserve,
        hcreate, hex, pure, Task.counting]

theorem run_deprovision_failing (hs : s.Genuine) (db : String) :
    (∃ e s', Delivered .destroy e s s' ∧
      (Provisioner.deprovision db).run serve s = (.error (.store e), s', [])) ∨
    ∃ d, ((Provisioner.deprovision db).run serve s).1 = .ok d := by
  obtain ⟨e, s', hdelivered, hserve⟩ | ⟨-, hserve⟩ := faulty_delivered .destroy s (destroy db)
  · obtain ⟨-, hfound, -⟩ := StoreError.isSignal_eq_false.1 (hs.delivered hdelivered).1
    refine .inl ⟨e, s', hdelivered, ?_⟩
    simp [Provisioner.deprovision, Task.destroy, bind, Task.bind, Task.run, serve, hserve, pure,
      hfound]
  · have hdestroy : s.destroy db = if s.databaseExists db
        then (.ok (), { s with databases := s.databases.erase db })
        else (.error (noDatabase db), s) := rfl
    right
    cases hex : s.databaseExists db with
    | true =>
      refine ⟨.destroyed, ?_⟩
      simp [Provisioner.deprovision, Task.destroy, bind, Task.bind, Task.run, serve, hserve,
        hdestroy, hex, pure, Task.counting]
    | false =>
      refine ⟨.alreadyAbsent, ?_⟩
      simp [Provisioner.deprovision, Task.destroy, bind, Task.bind, Task.run, serve, hserve,
        hdestroy, hex, pure, noDatabase, StoreError.isNotFound]

/-- A verdict on a pass is an error only for a pass that stopped. -/
theorem aftermath_of_enforce (hs : s.Genuine) {a : Artifacts} {policy : FailurePolicy}
    (ha : e.artifacts? = some a)
    (h : policy.enforce ((applyPermissions e.database a).run serve (e.prepared s)).1 =
      .error cause) :
    e.Aftermath s cause ((applyPermissions e.database a).run serve (e.prepared s)).2.1 := by
  obtain ⟨w, hw, rfl⟩ := enforce_eq_error h
  obtain ⟨hdb, hstopped⟩ := run_applyPermissions_stopped (genuine_prepared hs e) e.database a hw
  rw [hdb]
  exact .stopped a ha w.documentId w.error _ hstopped

theorem aftermath_of_error (hs : s.Genuine) (e : Errand)
    (h : (e.task.run serve s).1.error? = some cause) :
    e.Aftermath s cause (e.task.run serve s).2.1 := by
  cases e with
  | provision p owner db app options =>
    simp only [Errand.task, Provisioner.provision, bind, Task.run_bind] at h ⊢
    cases ha : p.compile owner app options with
    | error refusal =>
      simp only [ha, pure, Task.run] at h ⊢
      cases h
      exact .refused refusal
    | ok a =>
      simp only [ha, Task.run_bind] at h ⊢
      obtain ⟨refusal, s', hdelivered, hrun⟩ | ⟨status, ks, hrun⟩ :=
        run_ensureDatabase_failing hs db
      · simp only [hrun, pure, Task.run] at h ⊢
        cases h
        exact .undone .create refusal s' hdelivered
      · have hartifacts : (Errand.provision p owner db app options).artifacts? = some a := by
          rw [Errand.artifacts?, ha]
          rfl
        have hprepared : (Errand.provision p owner db app options).prepared s =
            if s.databaseExists db then s else s.withDatabase db := rfl
        simp only [hrun, pure, Task.run_bind, Task.run, ← hprepared] at h ⊢
        cases hverdict : p.settings.onProvision.enforce ((applyPermissions db a).run serve
            ((Errand.provision p owner db app options).prepared s)).1 with
        | ok _ =>
          rw [hverdict] at h
          cases h
        | error c =>
          rw [hverdict] at h
          cases h
          exact aftermath_of_enforce hs hartifacts hverdict
  | update p owner db app options =>
    simp only [Errand.task, Provisioner.update, bind, Task.run_bind] at h ⊢
    cases ha : p.compile owner app options with
    | error refusal =>
      simp only [ha, pure, Task.run] at h ⊢
      cases h
      exact .refused refusal
    | ok a =>
      have hartifacts : (Errand.update p owner db app options).artifacts? = some a := by
        rw [Errand.artifacts?, ha]
        rfl
      simp only [ha, pure, Task.run_bind, Task.run] at h ⊢
      cases hverdict : p.settings.onUpdate.enforce ((applyPermissions db a).run serve s).1 with
      | ok _ =>
        rw [hverdict] at h
        cases h
      | error c =>
        rw [hverdict] at h
        cases h
        exact aftermath_of_enforce hs hartifacts hverdict
  | deprovision db =>
    simp only [Errand.task, bind, Task.run_bind, pure, Task.run] at h ⊢
    obtain ⟨refusal, s', hdelivered, hrun⟩ | ⟨d, hrun⟩ := run_deprovision_failing hs db
    · rw [hrun] at h ⊢
      cases h
      exact .undone .destroy refusal s' hdelivered
    · rw [hrun] at h
      cases h

/-- The security object of a new database cannot be written. The failure that waits for a
destruction goes on waiting. -/
theorem aftermath_of_error_lost :
    let s := (empty.failNext .destroy (.internal "")).failNext .insert (.transport "lost")
    let p : Provisioner := ⟨hashedTranslator, { onProvision := .strict }⟩
    let e : Errand := .provision p "alice" "db" "app" ⟨none⟩
    s.Genuine ∧
      (e.task.run serve s).1.error? = some (.notApplied "db" securityId (.transport "lost")) ∧
      e.Aftermath s (.notApplied "db" securityId (.transport "lost")) (e.task.run serve s).2.1 ∧
      (e.task.run serve s).2.1.databaseExists "db" = true ∧
      (e.task.run serve s).2.1.faults = [(.destroy, .internal "")] := by
  intro s p e
  have hs : s.Genuine := ⟨by decide, rfl⟩
  have herror : (e.task.run serve s).1.error? =
      some (.notApplied "db" securityId (.transport "lost")) := by decide +kernel
  exact ⟨hs, herror, aftermath_of_error hs e herror, by decide +kernel,
    by decide +kernel⟩

end Errands

end Permits
