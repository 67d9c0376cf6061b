import Permits.Provision.Provisioner
import Permits.Proofs.Store.Calls
import Permits.Proofs.Store.History

namespace Permits

open MemoryStore

/-- A state of the store, and the calls that led to it. -/
abbrev Moment := MemoryStore × List Event

theorem deleteGuardId_ne_securityId : deleteGuardId ≠ securityId := by decide

theorem deleteGuardId_ne_writeGuardId : deleteGuardId ≠ writeGuardId := by decide

namespace Artifacts

theorem steps_eq (a : Artifacts) :
    a.steps = [(securityId, some a.descriptor.body), (writeGuardId, some a.writeGuard.body),
      (deleteGuardId, a.deleteGuard.map GuardRule.body)] := by
  cases hd : a.deleteGuard <;> simp [steps, documents, hd]

theorem mem_steps {a : Artifacts} {step : Step} : step ∈ a.steps ↔
    step = (securityId, some a.descriptor.body) ∨ step = (writeGuardId, some a.writeGuard.body) ∨
      step = (deleteGuardId, a.deleteGuard.map GuardRule.body) := by
  simp [steps_eq]

/-- The bodies of guards are kept as they are written. -/
theorem plain_of_mem_steps {a : Artifacts} {step : Step} (h : step ∈ a.steps)
    (hid : step.1 ≠ securityId) (body : Members) (hb : step.2 = some body) :
    deletes body = false ∧ content body = body := by
  have hrule (r : GuardRule) : deletes r.body = false ∧ content r.body = r.body := ⟨rfl, rfl⟩
  rcases mem_steps.1 h with rfl | rfl | rfl
  · exact absurd rfl hid
  · cases hb
    exact hrule _
  · obtain ⟨r, -, rfl⟩ := Option.map_eq_some_iff.1 hb
    exact hrule r

theorem retires_of_mem_steps {a : Artifacts} {step : Step} (h : step ∈ a.steps)
    (hb : step.2 = none) : step.1 ≠ securityId := by
  rcases mem_steps.1 h with rfl | rfl | rfl
  · cases hb
  · cases hb
  · exact deleteGuardId_ne_securityId

end Artifacts

theorem performSteps_cons (db : String) (step : Step) (rest : List Step)
    (report : PermissionReport) :
    performSteps db (step :: rest) report = (performStep db step).bind fun
      | .ok status =>
        (countStatus status).bind fun _ => performSteps db rest (report.record step.1 status)
      | .error e =>
        (countStatus .failed).bind fun _ =>
          .done (rest.foldl (fun r s => r.record s.1 .skipped) (report.recordFailure step.1 e)) :=
  rfl

theorem warnings_foldl_record (steps : List Step) (report : PermissionReport) (status : Status) :
    (steps.foldl (fun r s => r.record s.1 status) report).warnings = report.warnings := by
  induction steps generalizing report with
  | nil => rfl
  | cons step rest ih => exact ih (report.record step.1 status)

theorem isComplete_skipped (steps : List Step) (report : PermissionReport) (id : String)
    (e : StoreError) :
    (steps.foldl (fun r s => r.record s.1 .skipped) (report.recordFailure id e)).isComplete =
      false := by
  rw [PermissionReport.isComplete, warnings_foldl_record]
  simp [PermissionReport.recordFailure]

def PermissionReport.statuses (report : PermissionReport) : List Status :=
  report.artifacts.map (·.status)

@[simp] theorem statuses_record (report : PermissionReport) (id : String) (status : Status) :
    (report.record id status).statuses = report.statuses ++ [status] := by
  simp [PermissionReport.statuses, PermissionReport.record]

@[simp] theorem statuses_recordFailure (report : PermissionReport) (id : String) (e : StoreError) :
    (report.recordFailure id e).statuses = report.statuses ++ [.failed] := by
  simp [PermissionReport.statuses, PermissionReport.record, PermissionReport.recordFailure]

theorem run_countStatus {σ : Type} (serve : Service σ) (status : Status) (s : σ) :
    (countStatus status).run serve s = ((), s, status.counter?.toList) := by
  cases status <;> rfl

/-- A pass over more steps goes on where a pass over the first ones ended, and skips the others
after a failure. -/
theorem performSteps_append (db : String) (xs ys : List Step) {report : PermissionReport}
    (h : report.isComplete = true) :
    performSteps db (xs ++ ys) report = (performSteps db xs report).bind fun r =>
      if r.isComplete then performSteps db ys r
      else .done (ys.foldl (fun r s => r.record s.1 .skipped) r) := by
  induction xs generalizing report with
  | nil =>
    change _ = if report.isComplete = true then _ else _
    rw [if_pos h]
    rfl
  | cons step rest ih =>
    rw [List.cons_append, performSteps_cons, performSteps_cons, Task.bind_assoc]
    congr 1
    funext r
    cases r with
    | ok status =>
      have hnext : (report.record step.1 status).isComplete = true := h
      simp only [Task.bind_assoc, ih hnext]
    | error e =>
      simp only [Task.bind_assoc, Task.bind, isComplete_skipped, List.foldl_append]
      rfl

/-- The members that a step writes into its document. -/
def stepBody : Step → Members
  | (_, some body) => body
  | (_, none) => [("_deleted", .bool true)]

theorem stepBody_of_some {step : Step} {body : Members} (h : step.2 = some body) :
    stepBody step = body := by
  obtain ⟨id, wanted⟩ := step
  cases h
  rfl

/-- The document of a step after its body has been taken. -/
theorem document_written_step {s : MemoryStore} {db : String} {step : Step}
    (hex : s.databaseExists db = true)
    (plain : step.1 ≠ securityId → ∀ body, step.2 = some body →
      deletes body = false ∧ content body = body)
    (retires : step.2 = none → step.1 ≠ securityId) :
    (s.written db step.1 (stepBody step)).document db step.1 = step.2 := by
  obtain ⟨id, _ | body⟩ := step
  · rw [document_written_self hex (retires rfl)]
    rfl
  · by_cases hid : id = securityId
    · subst hid
      exact document_written_security hex body
    · rw [document_written_self hex hid]
      obtain ⟨hdel, hcontent⟩ := plain hid body rfl
      simp [stepBody, hdel, hcontent]

namespace Step

/-- What a step does with what it has read: it goes on to write over a revision, or it is done. -/
def judge (step : Step) :
    Except StoreError Document → Except (Except StoreError Status) (Option String)
  | .ok doc =>
    match step.2, doc.rev with
    | none, none =>
      .error (.error (.invalidResponse s!"{step.1} has no revision and cannot be deleted"))
    | _, rev => .ok rev
  | .error e =>
    if e.isNotFound then
      match step.2 with
      | none => .error (.ok .absent)
      | some _ => .ok none
    else .error (.error e)

def conclude (step : Step) (rev : Option String) :
    Except StoreError (Option String) → Except StoreError Status
  | .ok _ =>
    match step.2 with
    | none => .ok .removed
    | some _ => .ok (if rev.isSome then .updated else .created)
  | .error e => if e.isConflict then .ok .converged else .error e

end Step

/-- A step reads its document and writes it at most once, whatever the answers. -/
theorem performStep_eq (db : String) (step : Step) :
    performStep db step = .call (.get db step.1) fun read =>
      match step.judge read with
      | .error r => .done r
      | .ok rev => .call (.insert db step.1 (.object (stepBody step)) rev) fun answer =>
          .done (step.conclude rev answer) := by
  obtain ⟨id, w⟩ := step
  cases w with
  | none =>
    refine congrArg (Task.call (.get db id)) (funext fun read => ?_)
    rcases read with e | ⟨_, _ | rev, _⟩
    · cases h : e.isNotFound <;>
        simp [Step.judge, h, Task.bind, pure, Except.map, Retired.status]
    · rfl
    · refine congrArg (Task.call (.insert db id tombstone (some rev))) (funext fun answer => ?_)
      rcases answer with e | r
      · cases h : e.isConflict <;>
          simp [Step.conclude, h, Task.bind, pure, Except.map, Retired.status]
      · rfl
  | some body =>
    have hwrite (rev : Option String) (answer : Except StoreError (Option String)) :
        (match answer with
          | .ok _ => Except.ok (if rev.isSome then Installed.updated else .created)
          | .error e => if e.isConflict then .ok .converged else .error e).map Installed.status =
        Step.conclude (id, some body) rev answer := by
      rcases answer with e | r
      · cases h : e.isConflict <;> simp [Step.conclude, h, Except.map, Installed.status]
      · cases rev <;> rfl
    refine congrArg (Task.call (.get db id)) (funext fun read => ?_)
    rcases read with e | doc
    · cases h : e.isNotFound with
      | true =>
        simp only [Step.judge, Task.bind, pure, h, if_true]
        refine congrArg (Task.call (.insert db id (.object body) none)) (funext fun answer => ?_)
        simp only [← hwrite]
        cases answer <;> rfl
      | false => simp [Step.judge, h, Task.bind, pure, Except.map]
    · refine congrArg (Task.call (.insert db id (.object body) doc.rev)) (funext fun answer => ?_)
      simp only [← hwrite]
      cases answer <;> rfl

/-- A step does what it is for: the security object is not retired, and a body is no deletion. -/
structure Step.Sound (step : Step) : Prop where
  plain : step.1 ≠ securityId → ∀ body, step.2 = some body → deletes body = false
  retires : step.2 = none → step.1 ≠ securityId

theorem Artifacts.sound_of_mem_steps {a : Artifacts} {step : Step} (h : step ∈ a.steps) :
    step.Sound :=
  ⟨fun hid body hb => (plain_of_mem_steps h hid body hb).1, retires_of_mem_steps h⟩

/-- A step writes, unless it finds nothing to remove. -/
def Step.writes (db : String) (s : MemoryStore) (step : Step) : Bool :=
  step.2.isSome || (s.document db step.1).isSome

section Quiet

variable {db : String} {s : MemoryStore} {step : Step}

/-- What is to be written goes over the revision that the document has. -/
theorem Step.Sound.judge_eq (h : step.Sound) (hq : s.Quiet) (db : String) :
    step.judge (serve (.get db step.1) s).1 =
      if step.writes db s then .ok (s.currentRev db step.1) else .error (.ok .absent) := by
  obtain ⟨id, w⟩ := step
  cases hb : s.document db id with
  | some body =>
    rw [serve_get_live hq hb]
    cases w with
    | none =>
      obtain ⟨r, hrev, -⟩ := accepts_delete (h.retires rfl) hb
      simp [Step.judge, Step.writes, hb, hrev]
    | some body => rfl
  | none =>
    obtain ⟨text, hget⟩ := serve_get_missing hq hb
    rw [hget, currentRev_of_missing hb]
    cases w <;> simp [Step.judge, Step.writes, hb, StoreError.isNotFound]

/-- Nobody came between: the write of a step goes through. -/
theorem Step.Sound.accepts (h : step.Sound) (hex : s.databaseExists db = true)
    (hw : step.writes db s = true) :
    s.accepts db step.1 (s.currentRev db step.1) (deletes (stepBody step)) = true := by
  obtain ⟨id, _ | body⟩ := step
  · obtain ⟨body, hb⟩ := Option.isSome_iff_exists.1 hw
    obtain ⟨r, hrev, hacc⟩ := accepts_delete (h.retires rfl) hb
    rw [hrev]
    exact hacc
  · by_cases hid : id = securityId
    · simp [MemoryStore.accepts, hex, hid]
    · rw [stepBody, h.plain hid body rfl]
      exact accepts_currentRev hex

end Quiet

def PassCall (db : String) (steps : List Step) : StoreCall → Prop
  | .get db' id => db' = db ∧ ∃ step ∈ steps, step.1 = id
  | .insert db' id body _ => db' = db ∧ ∃ step ∈ steps, step.1 = id ∧ body = .object (stepBody step)
  | _ => False

variable {db : String} {steps : List Step}

theorem asks_performStep {step : Step} (h : step ∈ steps) :
    (performStep db step).Asks (PassCall db steps) 2 := by
  rw [performStep_eq]
  refine ⟨Nat.two_pos, ⟨rfl, step, h, rfl⟩, fun read => ?_⟩
  dsimp only
  cases step.judge read with
  | error r => trivial
  | ok rev => exact ⟨Nat.one_pos, ⟨rfl, step, h, rfl, rfl⟩, fun _ => trivial⟩

theorem asks_countStatus (status : Status) (P : StoreCall → Prop) :
    (countStatus status).Asks P 0 := by
  cases status <;> trivial

theorem asks_performSteps {rest : List Step} (h : ∀ step ∈ rest, step ∈ steps)
    (report : PermissionReport) :
    (performSteps db rest report).Asks (PassCall db steps) (2 * rest.length) := by
  induction rest generalizing report with
  | nil => trivial
  | cons step rest ih =>
    have hlen : 2 * (step :: rest).length = 2 + (0 + 2 * rest.length) := by
      rw [List.length_cons]
      omega
    rw [hlen]
    apply (asks_performStep (h step List.mem_cons_self)).bind
    intro r
    cases r with
    | error e => exact (asks_countStatus .failed _).bind fun _ => trivial
    | ok status =>
      exact (asks_countStatus status _).bind fun _ =>
        ih (fun s hs => h s (List.mem_cons_of_mem _ hs)) _

theorem asks_applyPermissions (db : String) (a : Artifacts) :
    (applyPermissions db a).Asks (PassCall db a.steps) 6 := by
  have hlen : 2 * a.steps.length = 6 := by
    rw [Artifacts.steps_eq]
    rfl
  rw [← hlen]
  exact asks_performSteps (fun _ h => h) _

namespace Provisioner

variable {p : Provisioner} {owner app : String} {options : DatabaseOptions} {a : Artifacts}

theorem asks_update (ha : p.compile owner app options = .ok a) (db : String) :
    (p.update owner db app options).Asks (PassCall db a.steps) 6 := by
  unfold update
  rw [ha]
  exact (asks_applyPermissions db a).bind (m := 0) fun _ => trivial

/-- Beside the calls of a pass, provisioning makes the database. -/
def ProvisionCall (db : String) (steps : List Step) (c : StoreCall) : Prop :=
  c = .create db ∨ PassCall db steps c

theorem asks_ensureDatabase (db : String) :
    (ensureDatabase db).Asks (ProvisionCall db a.steps) 1 := by
  refine ⟨Nat.one_pos, .inl rfl, fun r => ?_⟩
  rcases r with e | _ <;> trivial

theorem asks_provision (ha : p.compile owner app options = .ok a) (db : String) :
    (p.provision owner db app options).Asks (ProvisionCall db a.steps) 7 := by
  unfold provision
  rw [ha]
  apply (asks_ensureDatabase db).bind (m := 6)
  intro r
  cases r with
  | error e => trivial
  | ok status =>
    apply Task.Asks.bind (n := 6) (m := 0)
    · exact (asks_applyPermissions db a).mono (fun _ h => .inr h) (Nat.le_refl 6)
    · exact fun _ => trivial

/-- What a call of a provision comes to: nothing changes, the database is made, or the document of a
step is written. -/
inductive Outcome (db : String) (steps : List Step) (i : Nat) (x : Moment) : Moment → Prop where
  | same (e : Event) (caller : e.caller = i) (wrote : ∀ id, e.wrote db id = false)
      (created : e.created db = false) : Outcome db steps i x (x.1, x.2 ++ [e])
  | made (missing : x.1.databaseExists db = false) :
      Outcome db steps i x (x.1.withDatabase db, x.2 ++ [⟨i, .create db, .ok ()⟩])
  | wrote (step : Step) (mem : step ∈ steps) (rev r : Option String)
      (exist : x.1.databaseExists db = true) :
      Outcome db steps i x (x.1.written db step.1 (stepBody step),
        x.2 ++ [⟨i, .insert db step.1 (.object (stepBody step)) rev, .ok r⟩])

theorem outcome_of_call {x : Moment} (hq : x.1.Quiet) (i : Nat) {c : StoreCall}
    (hc : ProvisionCall db steps c) : Outcome db steps i x (serve.recording i c x).2 := by
  rcases hc with rfl | hc
  · cases hex : x.1.databaseExists db with
    | true =>
      simp only [Service.recording, serve_create hq, hex, if_true]
      exact .same _ rfl (fun _ => rfl) rfl
    | false =>
      simp only [Service.recording, serve_create hq, hex]
      exact .made hex
  cases c with
  | create db' => exact hc.elim
  | destroy db' => exact hc.elim
  | get db' id =>
    simp only [Service.recording, serve_get_state hq]
    exact .same _ rfl (fun _ => rfl) rfl
  | insert db' id body rev =>
    obtain ⟨rfl, step, hstep, rfl, rfl⟩ := hc
    cases hex : x.1.databaseExists db' with
    | false =>
      simp only [Service.recording, serve_insert_missing hq hex]
      exact .same _ rfl (fun _ => rfl) rfl
    | true =>
      cases hacc : x.1.accepts db' step.1 rev (deletes (stepBody step)) with
      | false =>
        simp only [Service.recording, serve_insert_of_not_accepts hq hex hacc]
        exact .same _ rfl (fun _ => rfl) rfl
      | true =>
        simp only [Service.recording, serve_insert_of_accepts hq hacc]
        exact .wrote step hstep rev _ hex

end Provisioner

end Permits
