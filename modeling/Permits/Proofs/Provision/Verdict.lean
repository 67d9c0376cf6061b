import Permits.Proofs.Store.History
import Permits.Provision.Provisioner

namespace Permits

/-- What a failure policy makes of an answer that would only report failures. -/
def FailurePolicy.judge {α : Type} (policy : FailurePolicy) (report : α → PermissionReport)
    (answer : Except ProvisionError α) : Except ProvisionError α :=
  answer.bind fun a => (policy.enforce (report a)).map fun _ => a

/-- A run of a call: its answer, the store that it leaves with all calls that the store answered,
and what was counted. -/
abbrev Outlook (σ α : Type) := Except ProvisionError α × (σ × List Event) × List Counter

/-- A strict run differs from a run that only reports failures in its answer alone, and there only
by refusing what comes with a warning. -/
structure VerdictOnly {σ α : Type} (report : α → PermissionReport) (lenient strict : Outlook σ α) :
    Prop where
  calls : strict.2.1.2 = lenient.2.1.2
  state : strict.2.1.1 = lenient.2.1.1
  counted : strict.2.2 = lenient.2.2
  same : strict.1 = lenient.1 ↔ ∀ a, lenient.1 = .ok a → (report a).warnings = []
  refused : ∀ db id e, strict.1 = .error (.notApplied db id e) ↔
    ∃ a, lenient.1 = .ok a ∧ (report a).database = db ∧ (report a).warnings.head? = some ⟨id, e⟩

section Judge

variable {σ α : Type} {report : α → PermissionReport} {answer : Except ProvisionError α}

theorem enforce_bestEffort (r : PermissionReport) :
    FailurePolicy.bestEffort.enforce r = .ok () := by
  cases h : r.firstFailure? <;> simp [FailurePolicy.enforce]

theorem judge_reported (policy : FailurePolicy) (report : α → PermissionReport) (a : α) :
    policy.judge report ((FailurePolicy.bestEffort.enforce (report a)).map fun _ => a) =
      (policy.enforce (report a)).map fun _ => a := by
  rw [enforce_bestEffort]
  rfl

theorem judge_strict_warned {a : α} {w : Warning} (h : (report a).warnings.head? = some w) :
    FailurePolicy.strict.judge report (.ok a) =
      .error (.notApplied (report a).database w.documentId w.error) := by
  have hfirst : (report a).firstFailure? = some w := h
  simp [FailurePolicy.judge, FailurePolicy.enforce, Except.bind, Except.map, hfirst]

theorem judge_strict_complete {a : α} (h : (report a).warnings = []) :
    FailurePolicy.strict.judge report (.ok a) = .ok a := by
  have hfirst : (report a).firstFailure? = none := by
    rw [PermissionReport.firstFailure?, h]
    rfl
  simp [FailurePolicy.judge, FailurePolicy.enforce, Except.bind, Except.map, hfirst]

/-- All but the answer is the work of both runs, and the strict answer is had from the other one. -/
theorem verdictOnly_of_judge {lenient strict : Outlook σ α}
    (work : strict.2 = lenient.2)
    (verdict : strict.1 = FailurePolicy.strict.judge report lenient.1)
    (own : ∀ db id e, lenient.1 ≠ .error (.notApplied db id e)) :
    VerdictOnly report lenient strict := by
  refine ⟨by rw [work], by rw [work], by rw [work], ?_, ?_⟩
  · rw [verdict]
    cases hanswer : lenient.1 with
    | error e => exact ⟨fun _ => nofun, fun _ => rfl⟩
    | ok a =>
      cases hwarnings : (report a).warnings with
      | nil =>
        refine ⟨fun _ b hb => ?_, fun _ => judge_strict_complete hwarnings⟩
        cases hb
        exact hwarnings
      | cons w rest =>
        have hhead : (report a).warnings.head? = some w := by rw [hwarnings]; rfl
        rw [judge_strict_warned hhead]
        refine ⟨nofun, fun h => ?_⟩
        rw [h a rfl] at hwarnings
        cases hwarnings
  · intro db id e
    rw [verdict]
    cases hanswer : lenient.1 with
    | error e' =>
      refine ⟨fun h => ?_, nofun⟩
      cases h
      exact absurd hanswer (own db id e)
    | ok a =>
      cases hwarnings : (report a).warnings with
      | nil =>
        rw [judge_strict_complete hwarnings]
        refine ⟨nofun, ?_⟩
        rintro ⟨b, hb, -, hhead⟩
        cases hb
        rw [hwarnings] at hhead
        cases hhead
      | cons w rest =>
        have hhead : (report a).warnings.head? = some w := by rw [hwarnings]; rfl
        rw [judge_strict_warned hhead]
        constructor
        · intro h
          cases h
          exact ⟨a, rfl, rfl, hhead⟩
        · rintro ⟨b, hb, rfl, hb'⟩
          cases hb
          cases hhead.symm.trans hb'
          rfl

end Judge

namespace Provisioner

variable {σ : Type} (p : Provisioner) (owner db app : String) (options : DatabaseOptions)

def withProvisionPolicy (policy : FailurePolicy) : Provisioner :=
  { p with settings.onProvision := policy }

def withUpdatePolicy (policy : FailurePolicy) : Provisioner :=
  { p with settings.onUpdate := policy }

/-- Whatever the store answers, the verdict comes after all the work. -/
theorem provision_eq_judge (policy : FailurePolicy) :
    (p.withProvisionPolicy policy).provision owner db app options =
      ((p.withProvisionPolicy .bestEffort).provision owner db app options).bind fun answer =>
        .done (policy.judge (·.permissions) answer) := by
  have hcompile (q : FailurePolicy) : (p.withProvisionPolicy q).compile owner app options =
      p.compile owner app options := rfl
  simp only [provision, hcompile]
  cases p.compile owner app options with
  | error e => rfl
  | ok a =>
    refine (congrArg (Task.bind (ensureDatabase db)) (funext fun r => ?_)).trans
      (Task.bind_assoc ..).symm
    cases r with
    | error e => rfl
    | ok status =>
      refine (congrArg (Task.bind (applyPermissions db a)) (funext fun r => ?_)).trans
        (Task.bind_assoc ..).symm
      let report : ProvisionReport := ⟨status, r⟩
      exact congrArg Task.done (judge_reported policy ProvisionReport.permissions report).symm

theorem update_eq_judge (policy : FailurePolicy) :
    (p.withUpdatePolicy policy).update owner db app options =
      ((p.withUpdatePolicy .bestEffort).update owner db app options).bind fun answer =>
        .done (policy.judge id answer) := by
  have hcompile (q : FailurePolicy) : (p.withUpdatePolicy q).compile owner app options =
      p.compile owner app options := rfl
  simp only [update, hcompile]
  cases p.compile owner app options with
  | error e => rfl
  | ok a =>
    refine (congrArg (Task.bind (applyPermissions db a)) (funext fun r => ?_)).trans
      (Task.bind_assoc ..).symm
    exact congrArg Task.done (judge_reported policy id r).symm

variable (serve : Service σ) (s : σ)

theorem provision_ne_notApplied (db' id : String) (e : StoreError) :
    (((p.withProvisionPolicy .bestEffort).provision owner db app options).run serve s).1 ≠
      .error (.notApplied db' id e) := by
  unfold provision
  cases (p.withProvisionPolicy .bestEffort).compile owner app options with
  | error cause => exact nofun
  | ok a =>
    simp only [bind, Task.run_bind]
    generalize (ensureDatabase db).run serve s = made
    obtain ⟨_ | status, s', ks⟩ := made
    · exact nofun
    · simp only [Task.run_bind, withProvisionPolicy, enforce_bestEffort]
      exact nofun

theorem update_ne_notApplied (db' id : String) (e : StoreError) :
    (((p.withUpdatePolicy .bestEffort).update owner db app options).run serve s).1 ≠
      .error (.notApplied db' id e) := by
  unfold update
  cases (p.withUpdatePolicy .bestEffort).compile owner app options with
  | error cause => exact nofun
  | ok a =>
    simp only [bind, Task.run_bind, withUpdatePolicy, enforce_bestEffort]
    exact nofun

/-- Whatever a store answers, and whatever was asked for: a strict policy makes the calls, leaves
the store and counts as one that only reports failures. It answers alike too, except that it refuses
a report with a warning, for the reason that the first warning gives. -/
theorem verdict_only :
    VerdictOnly ProvisionReport.permissions
      (((p.withProvisionPolicy .bestEffort).provision owner db app options).run
        (serve.recording 0) (s, []))
      (((p.withProvisionPolicy .strict).provision owner db app options).run
        (serve.recording 0) (s, [])) ∧
    VerdictOnly id
      (((p.withUpdatePolicy .bestEffort).update owner db app options).run
        (serve.recording 0) (s, []))
      (((p.withUpdatePolicy .strict).update owner db app options).run
        (serve.recording 0) (s, [])) := by
  constructor
  · apply verdictOnly_of_judge
    · rw [provision_eq_judge p owner db app options .strict, Task.run_bind]
      simp [Task.run]
    · rw [provision_eq_judge p owner db app options .strict, Task.run_bind]
      rfl
    · exact provision_ne_notApplied p owner db app options _ _
  · apply verdictOnly_of_judge
    · rw [update_eq_judge p owner db app options .strict, Task.run_bind]
      simp [Task.run]
    · rw [update_eq_judge p owner db app options .strict, Task.run_bind]
      rfl
    · exact update_ne_notApplied p owner db app options _ _

end Provisioner

end Permits
