import Permits.Proofs.Provision.Errands
import Permits.Proofs.Store.Ledger

namespace Permits

open MemoryStore

/-- A pass over the documents stopped on a failure, be it reported or made an error. -/
def Errand.Answer.stopped : Errand.Answer → Bool
  | .provisioned (.ok report) => !report.permissions.isComplete
  | .updated (.ok report) => !report.isComplete
  | .provisioned (.error (.notApplied _ _ _)) => true
  | .updated (.error (.notApplied _ _ _)) => true
  | _ => false

/-- What happens to a store and its users. A new errand waits before its first call. -/
inductive Happening where
  | arrive (e : Errand)
  | turn (i : Nat)
  | failNext (op : Operation) (e : StoreError)

/-- Errands over one store, with what they have counted. -/
abbrev Session := Pool MemoryStore Errand.Answer

namespace Session

def opened : Session := .start empty []

def apply (x : Session) : Happening → Session
  | .arrive e => ⟨x.state, x.tasks ++ [e.task.settle.1], x.counted ++ e.task.settle.2⟩
  | .turn i => x.step serve i
  | .failNext op e => { x with state := x.state.failNext op e }

def after (hs : List Happening) : Session := hs.foldl apply opened

def answers (x : Session) : List Errand.Answer := x.tasks.filterMap Task.result?

/-- The counters tell what happened to the store and how the errands ended. -/
structure Accounted (x : Session) : Prop where
  databases : ∃ names : List String, names.Nodup ∧
    (∀ db, db ∈ names ↔ x.state.databaseExists db = true) ∧
    x.counted.count .created = x.counted.count .destroyed + names.length
  writes : x.counted.count .applied + x.counted.count .retired = x.state.writes
  failed : x.counted.count .failed = x.answers.countP Errand.Answer.stopped

end Session

section Balance

variable {v : Prices} {db : String}

def Prices.passed (v : Prices) (report : PermissionReport) : Int :=
  if report.isComplete then 0 else v.failure

def Prices.answered (v : Prices) (answer : Errand.Answer) : Int :=
  if answer.stopped then v.failure else 0

/-- What a step has done and not counted. -/
def Prices.uncounted (v : Prices) : Except StoreError Status → Int
  | .ok status => -v.total status.counter?.toList
  | .error _ => 0

theorem uncounted_of_judge {step : Step} {read : Except StoreError Document}
    {r : Except StoreError Status} (h : step.judge read = .error r) : v.uncounted r = 0 := by
  unfold Step.judge at h
  split at h
  · split at h
    · cases h
      rfl
    · cases h
  · split at h
    · split at h
      · cases h
        rfl
      · cases h
    · cases h
      rfl

theorem uncounted_conclude (db : String) (step : Step) (rev : Option String)
    (answer : Except StoreError (Option String)) :
    v.uncounted (step.conclude rev answer) =
      -v.gain (.insert db step.1 (.object (stepBody step)) rev) answer := by
  unfold Step.conclude
  split
  · split
    · simp [Prices.uncounted, Prices.gain, Status.counter?, Prices.worth]
    · cases rev <;> simp [Prices.uncounted, Prices.gain, Status.counter?, Prices.worth]
  · split <;> simp [Prices.uncounted, Prices.gain, Status.counter?, Prices.worth]

theorem balanced_performStep (db : String) (step : Step) :
    (performStep db step).Balanced v v.uncounted 0 := by
  rw [performStep_eq]
  refine ⟨rfl, fun read => ?_⟩
  have hread : -v.gain (.get db step.1) read = 0 := rfl
  rw [hread]
  dsimp only
  split
  -- a step that ends with what it has read has written nothing
  · next r hjudge => exact (uncounted_of_judge hjudge).symm
  · exact ⟨rfl, fun answer => (uncounted_conclude db step _ answer).symm⟩

theorem balanced_countStatus (status : Status) (b : Int) :
    (countStatus status).Balanced v (fun _ => b + v.total status.counter?.toList) b := by
  cases status <;> simp [countStatus, Status.counter?, Task.counting, Task.Balanced, pure]

theorem balanced_performSteps (steps : List Step) {report : PermissionReport}
    (h : report.isComplete = true) : (performSteps db steps report).Balanced v v.passed 0 := by
  induction steps generalizing report with
  | nil =>
    change (0 : Int) = _
    rw [Prices.passed, if_pos h]
  | cons step rest ih =>
    rw [performSteps_cons]
    refine (balanced_performStep db step).bind fun r => ?_
    cases r with
    | ok status =>
      refine (balanced_countStatus status _).bind fun _ => ?_
      rw [Prices.uncounted, Int.add_left_neg]
      exact ih h
    | error e =>
      change 0 + v.failure = _
      rw [Prices.passed, isComplete_skipped, Int.zero_add]
      rfl

theorem balanced_applyPermissions (db : String) (a : Artifacts) :
    (applyPermissions db a).Balanced v v.passed 0 :=
  balanced_performSteps a.steps rfl

theorem balanced_ensureDatabase (db : String) :
    (Provisioner.ensureDatabase db).Balanced v (fun _ => 0) 0 := by
  refine ⟨rfl, fun answer => ?_⟩
  cases answer with
  | ok _ => exact Int.add_left_neg v.database
  | error e => rfl

/-- A verdict hides no stop, and invents none. -/
theorem answered_enforce (policy : FailurePolicy) (report : PermissionReport)
    (databaseStatus : DatabaseStatus) :
    v.answered (.provisioned ((policy.enforce report).map fun _ =>
        { databaseStatus, permissions := report })) = v.passed report ∧
      v.answered (.updated ((policy.enforce report).map fun _ => report)) = v.passed report := by
  cases hfirst : report.firstFailure? with
  | none =>
    have hcomplete : report.isComplete = true := by
      rw [PermissionReport.isComplete, List.isEmpty_iff]
      exact List.head?_eq_none_iff.1 hfirst
    cases policy <;> simp [FailurePolicy.enforce, hfirst, Except.map, Prices.answered,
      Prices.passed, Errand.Answer.stopped, hcomplete]
  | some w =>
    have hincomplete : report.isComplete = false := by
      obtain ⟨rest, hwarnings⟩ := List.head?_eq_some_iff.1 hfirst
      rw [PermissionReport.isComplete, hwarnings]
      rfl
    cases policy <;> simp [FailurePolicy.enforce, hfirst, Except.map, Prices.answered,
      Prices.passed, Errand.Answer.stopped, hincomplete]

theorem balanced_provision (p : Provisioner) (owner db app : String) (options : DatabaseOptions) :
    (p.provision owner db app options).Balanced v (fun r => v.answered (.provisioned r)) 0 := by
  unfold Provisioner.provision
  split
  · rfl
  · next a _ =>
    refine (balanced_ensureDatabase db).bind fun r => ?_
    cases r with
    | error e => rfl
    | ok status =>
      refine (balanced_applyPermissions db a).bind fun report => ?_
      exact (answered_enforce _ report status).1.symm

theorem balanced_update (p : Provisioner) (owner db app : String) (options : DatabaseOptions) :
    (p.update owner db app options).Balanced v (fun r => v.answered (.updated r)) 0 := by
  unfold Provisioner.update
  split
  · rfl
  · next a _ =>
    refine (balanced_applyPermissions db a).bind fun report => ?_
    exact (answered_enforce _ report .created).2.symm

theorem balanced_deprovision (db : String) :
    (Provisioner.deprovision db).Balanced v (fun r => v.answered (.deprovisioned r)) 0 := by
  refine ⟨rfl, fun answer => ?_⟩
  cases answer with
  | ok _ => exact Int.add_left_neg (-v.database)
  | error e => rfl

/-- An errand counts what it does to the store, and a pass of it that stops. -/
theorem balanced_errand (e : Errand) : e.task.Balanced v v.answered 0 := by
  cases e with
  | provision p owner db app options =>
    exact (balanced_provision p owner db app options).bind fun _ => rfl
  | update p owner db app options =>
    exact (balanced_update p owner db app options).bind fun _ => rfl
  | deprovision db => exact (balanced_deprovision db).bind fun _ => rfl

end Balance

namespace Session

variable {v : Prices} {x : Session}

theorem books_opened : Pool.Books v v.answered opened :=
  ⟨sound_empty, nofun, by simp [opened, Pool.start, Prices.measure, empty]⟩

theorem books_apply (h : Pool.Books v v.answered x) (happening : Happening) :
    Pool.Books v v.answered (x.apply happening) := by
  cases happening with
  | arrive e => exact h.join (balanced_errand e)
  | turn i => exact h.step i
  | failNext op e => exact ⟨⟨h.sound.represented, h.sound.races⟩, h.balanced, h.total⟩

theorem books_after (v : Prices) (hs : List Happening) : Pool.Books v v.answered (after hs) := by
  have hrun (x : Session) (h : Pool.Books v v.answered x) :
      Pool.Books v v.answered (hs.foldl apply x) := by
    induction hs generalizing x with
    | nil => exact h
    | cons happening rest ih => exact ih _ (books_apply h happening)
  exact hrun opened books_opened

theorem sum_atRest (x : Session) :
    (x.tasks.map (Task.atRest v.answered)).sum =
      v.failure * x.answers.countP Errand.Answer.stopped := by
  rw [answers]
  induction x.tasks with
  | nil => simp
  | cons t rest ih =>
    rw [List.map_cons, List.sum_cons, ih]
    cases t with
    | done a =>
      have ha : (Task.done a).result? = some a := rfl
      rw [List.filterMap_cons_some ha, List.countP_cons]
      cases hstopped : a.stopped with
      | false => simp [Task.atRest, Prices.answered, hstopped]
      | true =>
        simp only [Task.atRest, Prices.answered, hstopped, if_true]
        grind
    | count k t => exact Int.zero_add _
    | call c next => exact Int.zero_add _

/-- Whatever errands come, however their calls are interleaved and whatever failures are put in
their way. -/
theorem accounted_after (hs : List Happening) : (after hs).Accounted := by
  have hbooks (v : Prices) := (books_after v hs).total
  simp only [Prices.total_eq, sum_atRest, Prices.measure] at hbooks
  have hdatabases := hbooks ⟨1, 0, 0⟩
  have hwrites := hbooks ⟨0, 1, 0⟩
  have hfailed := hbooks ⟨0, 0, 1⟩
  simp only [Int.one_mul, Int.zero_mul, Int.add_zero, Int.zero_add] at hdatabases hwrites hfailed
  have hnames := (books_after ⟨0, 0, 0⟩ hs).sound.represented.names
  refine ⟨⟨(after hs).state.databases.keys, hnames.nodup_keys, fun db => ?_, ?_⟩, ?_, ?_⟩
  · exact Keyed.mem_keys
  · rw [Keyed.keys, List.length_map]
    omega
  · omega
  · omega

/-- A write whose conflict was made up is not counted as one, and a pass on a missing database
stops. -/
example :
    let p : Provisioner := ⟨hashedTranslator, { onUpdate := .strict }⟩
    let provision := [.failNext .insert (.conflict "late"),
      .arrive (.provision p "alice" "a" "app" ⟨none⟩)] ++ (List.replicate 7 0).map .turn
    let update := .arrive (.update p "alice" "b" "app" ⟨none⟩) :: (List.replicate 6 1).map .turn
    let s := after (provision ++ update)
    s.answers.length = 2 ∧ s.state.writes = 1 ∧
      s.counted = [.created, .converged, .applied, .failed] := by decide +kernel

end Session

end Permits
