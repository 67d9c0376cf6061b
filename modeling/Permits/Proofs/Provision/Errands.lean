import Permits.Proofs.Provision.Calls

namespace Permits

section Incurious

variable {step : Step}

end Incurious

/-- Something that is asked of a provisioner. -/
inductive Errand where
  | provision (p : Provisioner) (owner db app : String) (options : DatabaseOptions)
  | update (p : Provisioner) (owner db app : String) (options : DatabaseOptions)
  | deprovision (db : String)

namespace Errand

/-- What an errand ends with. -/
inductive Answer where
  | provisioned (result : Except ProvisionError ProvisionReport)
  | updated (result : Except ProvisionError PermissionReport)
  | deprovisioned (result : Except ProvisionError Deprovisioned)

def database : Errand → String
  | provision _ _ db _ _ => db
  | update _ _ db _ _ => db
  | deprovision db => db

def task : Errand → Task Answer
  | provision p owner db app options => do
    return .provisioned (← p.provision owner db app options)
  | update p owner db app options => do
    return .updated (← p.update owner db app options)
  | deprovision db => do
    return .deprovisioned (← Provisioner.deprovision db)

/-- Errands one after the other, whatever each of them ends with. -/
def all : List Errand → Task (List Answer)
  | [] => return []
  | e :: rest => do
    let answer ← e.task
    let answers ← all rest
    return answer :: answers

/-- A call that an errand on a database makes. -/
def Call (db : String) (c : StoreCall) : Prop :=
  c = .destroy db ∨ ∃ a : Artifacts, Provisioner.ProvisionCall db a.steps c

theorem asks_task (e : Errand) : e.task.Asks (Call e.database) 7 := by
  cases e with
  | provision p owner db app options =>
    cases ha : p.compile owner app options with
    | error cause =>
      simp only [task, Provisioner.provision, ha]
      trivial
    | ok a =>
      have hasks := (Provisioner.asks_provision ha db).mono (Q := Call db)
        (fun c hc => .inr ⟨a, hc⟩) (Nat.le_refl 7)
      exact hasks.bind (m := 0) fun _ => trivial
  | update p owner db app options =>
    cases ha : p.compile owner app options with
    | error cause =>
      simp only [task, Provisioner.update, ha]
      trivial
    | ok a =>
      have hasks := (Provisioner.asks_update ha db).mono (Q := Call db)
        (fun c hc => .inr ⟨a, .inr hc⟩) (by decide : 6 ≤ 7)
      exact hasks.bind (m := 0) fun _ => trivial
  | deprovision db =>
    refine ⟨by decide, .inl rfl, fun r => ?_⟩
    rcases r with e | _ <;> trivial

theorem asks_all (P : StoreCall → Prop) {errands : List Errand}
    (h : ∀ e ∈ errands, ∀ c, Call e.database c → P c) :
    (all errands).Asks P (7 * errands.length) := by
  induction errands with
  | nil => trivial
  | cons e rest ih =>
    have hfirst := e.asks_task.mono (h e List.mem_cons_self) (Nat.le_refl 7)
    have hrest := ih fun x hx => h x (List.mem_cons_of_mem e hx)
    have hturns : 7 * (e :: rest).length = 7 + (7 * rest.length + 0) := by
      rw [List.length_cons]
      omega
    rw [hturns]
    exact hfirst.bind fun _ => hrest.bind fun _ => trivial

end Errand

end Permits
