import Mathlib.Data.List.Forall2
import Permits.Proofs.Provision.Calls

namespace Permits

/-- The ways in which a step may bring its document to the intended state. -/
def Step.successes : Step → List Status
  | (_, some _) => [.created, .updated, .converged]
  | (_, none) => [.removed, .absent, .converged]

namespace Event

/-- The call reads or writes the document. -/
inductive Concerns (db id : String) : Event → Prop where
  | read (i : Nat) (answer : Except StoreError Document) : Concerns db id ⟨i, .get db id, answer⟩
  | write (i : Nat) (body : Json) (rev : Option String)
      (answer : Except StoreError (Option String)) :
      Concerns db id ⟨i, .insert db id body rev, answer⟩

/-- The answer to the call is why a step fails: an error of the store that says neither that there
is no document nor that another writer came first, or a document that is to be deleted without the
revision that this takes. -/
inductive Fails (db id : String) : Event → StoreError → Prop where
  | read (i : Nat) (e : StoreError) (h : e.isNotFound = false) :
      Fails db id ⟨i, .get db id, .error e⟩ e
  | unversioned (i : Nat) (doc : Document) (h : doc.rev = none) :
      Fails db id ⟨i, .get db id, .ok doc⟩
        (.invalidResponse s!"{id} has no revision and cannot be deleted")
  | write (i : Nat) (body : Json) (rev : Option String) (e : StoreError)
      (h : e.isConflict = false) : Fails db id ⟨i, .insert db id body rev, .error e⟩ e

end Event

/-- How a pass over some steps may end. All of them reach their documents, or the first that does
not is the last that calls the store: its last call failed, the warning says how, and the steps
behind it are skipped. -/
inductive Ended (db : String) (steps : List Step) (statuses : List Status)
    (warnings : List Warning) (calls : List Event) : Prop where
  | complete (reached : List.Forall₂ (fun step status => status ∈ step.successes) steps statuses)
      (unwarned : warnings = [])
      (own : ∀ call ∈ calls, ∃ step ∈ steps, call.Concerns db step.1)
  | stopped (before : List Step) (step : Step) (after : List Step)
      (order : steps = before ++ step :: after) (goods : List Status)
      (reached : List.Forall₂ (fun step status => status ∈ step.successes) before goods)
      (rest : statuses = goods ++ .failed :: after.map fun _ => .skipped)
      (e : StoreError) (warned : warnings = [⟨step.1, e⟩])
      (own : ∀ call ∈ calls, ∃ step' ∈ before ++ [step], call.Concerns db step'.1)
      (last : ∃ call, calls.getLast? = some call ∧ call.Fails db step.1 e)

/-- The report of a pass over some steps, the calls that it made and what it counted: three accounts
that agree. -/
structure Lawful (db : String) (steps : List Step) (report : PermissionReport) (calls : List Event)
    (counted : List Counter) : Prop where
  database : report.database = db
  documents : report.artifacts.map (·.documentId) = steps.map (·.1)
  course : Ended db steps report.statuses report.warnings calls
  complete : report.isComplete = true ↔ ∀ status ∈ report.statuses,
    status ≠ .failed ∧ status ≠ .skipped
  applied : counted.count .applied = report.statuses.count .created + report.statuses.count .updated
  converged : counted.count .converged = report.statuses.count .converged
  retired : counted.count .retired = report.statuses.count .removed
  failed : counted.count .failed = report.statuses.count .failed

structure Step.Settled (db : String) (step : Step) (calls : List Event)
    (result : Except StoreError Status) : Prop where
  own : ∀ call ∈ calls, call.Concerns db step.1
  success : ∀ status, result = .ok status → status ∈ step.successes
  failure : ∀ e, result = .error e → ∃ call, calls.getLast? = some call ∧ call.Fails db step.1 e

theorem Step.ne_of_mem_successes {status : Status} (step : Step) (h : status ∈ step.successes) :
    status ≠ .failed ∧ status ≠ .skipped := by
  obtain ⟨id, _ | body⟩ := step <;> cases status <;> simp [successes] at h ⊢

section Steps

variable {σ : Type} {db : String} {step : Step} {steps : List Step} {statuses : List Status}
  {warnings : List Warning} {calls others : List Event}

/-- A step that is over after its read has made no other call. -/
theorem Step.settled_of_judge {read : Except StoreError Document}
    {result : Except StoreError Status} (h : step.judge read = .error result) :
    step.Settled db [⟨0, .get db step.1, read⟩] result := by
  have own : ∀ call ∈ [(⟨0, .get db step.1, read⟩ : Event)], call.Concerns db step.1 :=
    fun call hcall => List.mem_singleton.1 hcall ▸ .read 0 read
  have fails {e : StoreError} (he : result = .error e)
      (hfails : Event.Fails db step.1 ⟨0, .get db step.1, read⟩ e) :
      step.Settled db [⟨0, .get db step.1, read⟩] result := by
    refine ⟨own, fun status hs => ?_, fun e' he' => ?_⟩
    · cases he.symm.trans hs
    · cases he.symm.trans he'
      exact ⟨_, rfl, hfails⟩
  obtain ⟨id, wanted⟩ := step
  rcases read with e | doc
  · cases hfound : e.isNotFound with
    | false =>
      have hresult : .error e = result := by simpa [judge, hfound] using h
      exact fails hresult.symm (.read 0 e hfound)
    | true =>
      cases wanted with
      | some body => simp [judge, hfound] at h
      | none =>
        obtain rfl : .ok .absent = result := by simpa [judge, hfound] using h
        refine ⟨own, fun status hs => ?_, fun e' he' => ?_⟩
        · cases hs
          simp [successes]
        · cases he'
  · cases wanted with
    | some body => simp [judge] at h
    | none =>
      cases hrev : doc.rev with
      | some rev => simp [judge, hrev] at h
      | none =>
        simp only [judge, hrev, Except.error.injEq] at h
        exact fails h.symm (.unversioned 0 doc hrev)

theorem Step.settled_conclude (read : Except StoreError Document) (rev : Option String)
    (answer : Except StoreError (Option String)) :
    step.Settled db [⟨0, .get db step.1, read⟩,
      ⟨0, .insert db step.1 (.object (stepBody step)) rev, answer⟩] (step.conclude rev answer) where
  own call hcall := by
    rcases List.mem_pair.1 hcall with rfl | rfl
    · exact .read 0 read
    · exact .write 0 _ rev answer
  success status h := by
    obtain ⟨id, wanted⟩ := step
    rcases answer with e | r
    · cases hconflict : e.isConflict <;> cases wanted <;>
        simp_all [conclude, successes]
    · cases wanted <;> cases rev <;> simp_all [conclude, successes]
  failure e h := by
    refine ⟨_, rfl, ?_⟩
    rcases answer with e' | r
    · cases hconflict : e'.isConflict with
      | true => simp [conclude, hconflict] at h
      | false =>
        obtain rfl : e' = e := by simpa [conclude, hconflict] using h
        exact .write 0 _ rev e' hconflict
    · cases hwanted : step.2 <;> simp [conclude, hwanted] at h

theorem run_performStep_settled (serve : Service σ) (db : String) (step : Step)
    (x : σ × List Event) :
    ∃ result s calls, (performStep db step).run (serve.recording 0) x =
      (result, (s, x.2 ++ calls), []) ∧ step.Settled db calls result := by
  rw [performStep_eq]
  obtain ⟨read, s, hread⟩ : ∃ read s, serve (.get db step.1) x.1 = (read, s) := ⟨_, _, rfl⟩
  cases hjudge : step.judge read with
  | error result =>
    refine ⟨result, s, _, ?_, Step.settled_of_judge hjudge⟩
    simp only [Task.run, Service.recording, hread, hjudge]
  | ok rev =>
    obtain ⟨answer, t, hwrite⟩ : ∃ answer t,
      serve (.insert db step.1 (.object (stepBody step)) rev) s = (answer, t) := ⟨_, _, rfl⟩
    refine ⟨step.conclude rev answer, t, _, ?_, Step.settled_conclude read rev answer⟩
    simp only [Task.run, Service.recording, hread, hjudge, hwrite, List.append_assoc,
      List.cons_append, List.nil_append]

/-- A report to which the end of some more steps has been added. -/
def PermissionReport.extended (report : PermissionReport) (steps : List Step)
    (statuses : List Status) (warnings : List Warning) : PermissionReport :=
  { report with
    artifacts := report.artifacts ++ (steps.zip statuses).map fun x => ⟨x.1.1, x.2⟩
    warnings := report.warnings ++ warnings }

theorem extended_record (report : PermissionReport) (status : Status) :
    (report.record step.1 status).extended steps statuses warnings =
      report.extended (step :: steps) (status :: statuses) warnings := by
  simp [PermissionReport.extended, PermissionReport.record]

theorem foldl_record_eq_extended (steps : List Step) (report : PermissionReport) (status : Status) :
    steps.foldl (fun r s => r.record s.1 status) report =
      report.extended steps (steps.map fun _ => status) [] := by
  induction steps generalizing report with
  | nil => simp [PermissionReport.extended]
  | cons step rest ih => rw [List.foldl_cons, ih, List.map_cons, extended_record]

theorem extended_recordFailure (report : PermissionReport) (e : StoreError) :
    (report.recordFailure step.1 e).extended steps statuses [] =
      report.extended (step :: steps) (.failed :: statuses) [⟨step.1, e⟩] := by
  simp [PermissionReport.extended, PermissionReport.record, PermissionReport.recordFailure]

namespace Ended

theorem cons {status : Status} (first : step.Settled db calls (.ok status))
    (rest : Ended db steps statuses warnings others) :
    Ended db (step :: steps) (status :: statuses) warnings (calls ++ others) := by
  have hstatus := first.success status rfl
  have hown {among : List Step}
      (h : ∀ call ∈ others, ∃ other ∈ among, call.Concerns db other.1) :
      ∀ call ∈ calls ++ others, ∃ other ∈ step :: among, call.Concerns db other.1 := by
    intro call hcall
    rcases List.mem_append.1 hcall with hcall | hcall
    · exact ⟨step, List.mem_cons_self, first.own call hcall⟩
    · obtain ⟨other, hother, hc⟩ := h call hcall
      exact ⟨other, List.mem_cons_of_mem _ hother, hc⟩
  cases rest with
  | complete reached unwarned own => exact .complete (.cons hstatus reached) unwarned (hown own)
  | stopped before bad after order goods reached rest e warned own last =>
    obtain ⟨call, hlast, hfails⟩ := last
    refine .stopped (step :: before) bad after (by rw [order]; rfl) (status :: goods)
      (.cons hstatus reached) (by rw [rest]; rfl) e warned (hown own) ⟨call, ?_, hfails⟩
    rw [List.getLast?_append, hlast, Option.some_or]

theorem of_failure {e : StoreError} (h : step.Settled db calls (.error e)) (rest : List Step) :
    Ended db (step :: rest) (.failed :: rest.map fun _ => .skipped) [⟨step.1, e⟩] calls :=
  .stopped [] step rest rfl [] .nil rfl e rfl
    (fun call hcall => ⟨step, List.mem_cons_self, h.own call hcall⟩) (h.failure e rfl)

theorem length_eq (h : Ended db steps statuses warnings calls) :
    steps.length = statuses.length := by
  cases h with
  | complete reached => exact reached.length_eq
  | stopped before step after order goods reached rest =>
    simp [order, rest, reached.length_eq]

/-- There is a warning just where a document failed, and nothing is skipped without one. -/
theorem unwarned_iff (h : Ended db steps statuses warnings calls) :
    warnings = [] ↔ ∀ status ∈ statuses, status ≠ .failed ∧ status ≠ .skipped := by
  cases h with
  | complete reached unwarned own =>
    refine iff_of_true unwarned ?_
    clear own
    induction reached with
    | nil => exact nofun
    | cons hstatus _ ih => exact List.forall_mem_cons.2 ⟨Step.ne_of_mem_successes _ hstatus, ih⟩
  | stopped before step after order goods reached rest e warned =>
    have hfailed : Status.failed ∈ statuses := by simp [rest]
    exact iff_of_false (by simp [warned]) fun h => (h .failed hfailed).1 rfl

end Ended

/-- However the store answers, a pass adds to the report what came of its steps, and counts it. -/
theorem run_performSteps_ended (serve : Service σ) (db : String) (steps : List Step)
    (report : PermissionReport) (x : σ × List Event) :
    ∃ statuses warnings s calls, (performSteps db steps report).run (serve.recording 0) x =
      (report.extended steps statuses warnings, (s, x.2 ++ calls),
        statuses.filterMap Status.counter?) ∧ Ended db steps statuses warnings calls := by
  induction steps generalizing report x with
  | nil =>
    refine ⟨[], [], x.1, [], ?_, .complete .nil rfl nofun⟩
    simp [performSteps, PermissionReport.extended, Task.run, pure]
  | cons step rest ih =>
    obtain ⟨result, s, calls, hrun, hsettled⟩ := run_performStep_settled serve db step x
    rw [performSteps_cons, Task.run_bind, hrun]
    cases result with
    | ok status =>
      obtain ⟨statuses, warnings, t, others, hrest, hended⟩ :=
        ih (report.record step.1 status) (s, x.2 ++ calls)
      refine ⟨status :: statuses, warnings, t, calls ++ others, ?_, hended.cons hsettled⟩
      simp only [Task.run_bind, run_countStatus, hrest, extended_record, List.append_assoc,
        List.nil_append]
      cases status <;> rfl
    | error e =>
      refine ⟨_, _, s, calls, ?_, .of_failure hsettled rest⟩
      simp only [Task.run_bind, run_countStatus, Task.run, foldl_record_eq_extended,
        extended_recordFailure]
      simp [Status.counter?]

theorem documents_extended (h : steps.length = statuses.length) (report : PermissionReport)
    (warnings : List Warning) :
    (report.extended steps statuses warnings).artifacts.map (·.documentId) =
      report.artifacts.map (·.documentId) ++ steps.map (·.1) := by
  have hsteps : (steps.zip statuses).map Prod.fst = steps := List.map_fst_zip (Nat.le_of_eq h)
  conv_rhs => rw [← hsteps]
  simp [PermissionReport.extended, Function.comp_def]

theorem statuses_extended (h : steps.length = statuses.length) (report : PermissionReport)
    (warnings : List Warning) :
    (report.extended steps statuses warnings).statuses = report.statuses ++ statuses := by
  have hstatuses : (steps.zip statuses).map Prod.snd = statuses :=
    List.map_snd_zip (Nat.le_of_eq h.symm)
  conv_rhs => rw [← hstatuses]
  simp [PermissionReport.extended, PermissionReport.statuses, Function.comp_def]

theorem count_counted (statuses : List Status) :
    let counted := statuses.filterMap Status.counter?
    counted.count .applied = statuses.count .created + statuses.count .updated ∧
      counted.count .converged = statuses.count .converged ∧
      counted.count .retired = statuses.count .removed ∧
      counted.count .failed = statuses.count .failed := by
  induction statuses with
  | nil => decide
  | cons status rest ih =>
    obtain ⟨happlied, hconverged, hretired, hfailed⟩ := ih
    cases status <;>
      simp [List.filterMap_cons, Status.counter?, happlied, hconverged, hretired, hfailed] <;> omega

theorem lawful_of_ended (h : Ended db steps statuses warnings calls) :
    Lawful db steps (PermissionReport.extended { database := db } steps statuses warnings) calls
      (statuses.filterMap Status.counter?) := by
  have hstatuses := statuses_extended h.length_eq { database := db } warnings
  rw [show (PermissionReport.mk db [] []).statuses = [] from rfl, List.nil_append] at hstatuses
  obtain ⟨happlied, hconverged, hretired, hfailed⟩ := count_counted statuses
  constructor
  case database => rfl
  case documents => exact documents_extended h.length_eq _ warnings
  case complete =>
    rw [hstatuses, ← h.unwarned_iff, PermissionReport.isComplete, List.isEmpty_iff]
    rfl
  all_goals rw [hstatuses]
  case course => exact h
  case applied => exact happlied
  case converged => exact hconverged
  case retired => exact hretired
  case failed => exact hfailed

end Steps

/-- However a store answers, a pass over the three documents of a database reports, asks and counts
the same. -/
theorem applyPermissions_lawful {σ : Type} (serve : Service σ) (s : σ) (db : String)
    (a : Artifacts) :
    let (report, (_, calls), counted) := (applyPermissions db a).run (serve.recording 0) (s, [])
    Lawful db [(securityId, some a.descriptor.body), (writeGuardId, some a.writeGuard.body),
      (deleteGuardId, a.deleteGuard.map GuardRule.body)] report calls counted := by
  obtain ⟨statuses, warnings, t, calls, hrun, hended⟩ :=
    run_performSteps_ended serve db a.steps { database := db } (s, [])
  rw [applyPermissions, hrun, ← a.steps_eq]
  exact lawful_of_ended hended

end Permits
