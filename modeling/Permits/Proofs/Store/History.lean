import Permits.Store.Task

namespace Permits

/-- A call that the task at a position of a pool made, with its answer. -/
structure Event where
  caller : Nat
  call : StoreCall
  answer : call.Answer

namespace Event

/-- The store accepted a write of the document. -/
def wrote (db id : String) : Event → Bool
  | ⟨_, .insert db' id' _ _, .ok _⟩ => db' = db && id' = id
  | _ => false

/-- The store created the database. -/
def created (db : String) : Event → Bool
  | ⟨_, .create db', .ok _⟩ => db' = db
  | _ => false

end Event

/-- Who wrote a document last, as far as a history tells. -/
def lastWriter? (db id : String) (h : List Event) : Option Nat :=
  ((h.filter (Event.wrote db id)).getLast?).map (·.caller)

/-- The store with a history of the calls that it answers, all of them made by one task. -/
def Service.recording {σ : Type} (serve : Service σ) (i : Nat) : Service (σ × List Event) :=
  fun c x => ((serve c x.1).1, (serve c x.1).2, x.2 ++ [⟨i, c, (serve c x.1).1⟩])

section LastWriter

variable {db id : String} {h : List Event} {e : Event}

theorem lastWriter?_append_wrote (he : e.wrote db id = true) :
    lastWriter? db id (h ++ [e]) = some e.caller := by
  simp [lastWriter?, List.filter_append, he]

theorem lastWriter?_append_other (he : e.wrote db id = false) :
    lastWriter? db id (h ++ [e]) = lastWriter? db id h := by
  simp [lastWriter?, List.filter_append, he]

theorem lastWriter?_eq_none_iff :
    lastWriter? db id h = none ↔ h.countP (Event.wrote db id) = 0 := by
  rw [lastWriter?, Option.map_eq_none_iff, List.getLast?_eq_none_iff, List.countP_eq_length_filter,
    List.length_eq_zero_iff]

theorem exists_of_lastWriter? {k : Nat} (hk : lastWriter? db id h = some k) :
    ∃ e ∈ h, e.wrote db id = true ∧ e.caller = k := by
  obtain ⟨e, he, rfl⟩ := Option.map_eq_some_iff.1 hk
  obtain ⟨hmem, hwrote⟩ := List.mem_filter.1 (List.mem_of_getLast? he)
  exact ⟨e, hmem, hwrote, rfl⟩

end LastWriter

/-- Answers that differ at most in what a document holds. -/
def StoreCall.Alike : (c : StoreCall) → c.Answer → c.Answer → Prop
  | .get _ _, a, b => a.map (·.rev) = b.map (·.rev)
  | .create _, a, b => a = b
  | .destroy _, a, b => a = b
  | .insert _ _ _ _, a, b => a = b

namespace Task

variable {α β γ : Type}

theorem bind_assoc (t : Task α) (f : α → Task β) (g : β → Task γ) :
    (t.bind f).bind g = t.bind fun a => (f a).bind g := by
  induction t with
  | done a => rfl
  | count k t ih => exact congrArg (count k) ih
  | call c next ih => exact congrArg (call c) (funext ih)

/-- Every call that the task can come to make is of a kind, and it makes at most so many. -/
def Asks (P : StoreCall → Prop) : Task α → Nat → Prop
  | done _, _ => True
  | count _ t, n => t.Asks P n
  | call c next, n => 0 < n ∧ P c ∧ ∀ a, (next a).Asks P (n - 1)

variable {P : StoreCall → Prop} {n m : Nat}

theorem Asks.mono {Q : StoreCall → Prop} {t : Task α} (ht : t.Asks P n) (hPQ : ∀ c, P c → Q c)
    (h : n ≤ m) : t.Asks Q m := by
  induction t generalizing n m with
  | done a => trivial
  | count k t ih => exact ih ht h
  | call c next ih =>
    obtain ⟨hn, hc, hnext⟩ := ht
    exact ⟨by omega, hPQ c hc, fun a => ih a (hnext a) (by omega)⟩

theorem Asks.bind {t : Task α} {f : α → Task β} (ht : t.Asks P n) (hf : ∀ a, (f a).Asks P m) :
    (t.bind f).Asks P (n + m) := by
  induction t generalizing n with
  | done a => exact (hf a).mono (fun _ h => h) (by omega)
  | count k t ih => exact ih ht
  | call c next ih =>
    obtain ⟨hn, hc, hnext⟩ := ht
    refine ⟨by omega, hc, fun a => ?_⟩
    have hstep : n + m - 1 = n - 1 + m := by omega
    rw [hstep]
    exact ih a (hnext a)

/-- Nothing but the revision is asked of the documents that are read. -/
def Incurious : Task α → Prop
  | done _ => True
  | count _ t => t.Incurious
  | call c next => (∀ a b, c.Alike a b → next a = next b) ∧ ∀ a, (next a).Incurious

theorem Incurious.bind {t : Task α} {f : α → Task β} (ht : t.Incurious)
    (hf : ∀ a, (f a).Incurious) : (t.bind f).Incurious := by
  induction t with
  | done a => exact hf a
  | count k t ih => exact ih ht
  | call c next ih =>
    exact ⟨fun a b hab => congrArg (Task.bind · f) (ht.1 a b hab), fun a => ih a (ht.2 a)⟩

theorem asks_settle {t : Task α} : t.settle.1.Asks P n ↔ t.Asks P n := by
  induction t with
  | done a => exact Iff.rfl
  | count k t ih => exact ih
  | call c next ih => exact Iff.rfl

theorem done_of_asks_zero {t : Task α} (ht : t.Asks P 0) : ∃ a, t.settle.1 = done a := by
  induction t with
  | done a => exact ⟨a, rfl⟩
  | count k t ih => exact ih ht
  | call c next ih => exact absurd ht.1 (Nat.lt_irrefl 0)

theorem settle_ne_count (t : Task α) (k : Counter) (u : Task α) : t.settle.1 ≠ count k u := by
  induction t with
  | done a => exact nofun
  | count l t ih => exact ih
  | call c next ih => exact nofun

end Task

namespace Pool

variable {σ α : Type} (serve : Service σ)

/-- What the task at a position does next, as an event. -/
def events (p : Pool σ α) (i : Nat) : List Event :=
  match p.tasks[i]? with
  | some (.call c _) => [⟨i, c, (serve c p.state).1⟩]
  | _ => []

/-- The calls made along a schedule, in order. -/
def history (p : Pool σ α) : List Nat → List Event
  | [] => []
  | i :: rest => p.events serve i ++ (p.step serve i).history rest

/-- The state after a schedule, with the calls that led to it. -/
def after (p : Pool σ α) (schedule : List Nat) : σ × List Event :=
  ((p.run serve schedule).state, p.history serve schedule)

variable {serve}

/-- A step makes the next call of the task at a position, or changes nothing. -/
theorem step_cases (serve : Service σ) (p : Pool σ α) (i : Nat) :
    (∃ c next, p.tasks[i]? = some (.call c next) ∧
      (p.step serve i).state = (serve c p.state).2 ∧
      (p.step serve i).tasks = p.tasks.set i (next (serve c p.state).1).settle.1 ∧
      p.events serve i = [⟨i, c, (serve c p.state).1⟩]) ∨
    ((∀ c next, p.tasks[i]? ≠ some (.call c next)) ∧
      (p.step serve i).state = p.state ∧ (p.step serve i).tasks = p.tasks ∧
      p.events serve i = []) := by
  cases ht : p.tasks[i]? with
  | none => simp [step, events, ht]
  | some t =>
    have hset : p.tasks.set i t = p.tasks := by
      obtain ⟨hi, rfl⟩ := List.getElem?_eq_some_iff.1 ht
      exact List.set_getElem_self hi
    cases t with
    | done a => simp [step, events, ht, Task.step, hset]
    | count k t => simp [step, events, ht, Task.step, hset]
    | call c next => exact .inl ⟨c, next, rfl, by simp [step, events, ht, Task.step]⟩

/-- What holds of every task of a pool with its position. -/
def Each (tasks : List (Task α)) (Φ : Nat → Task α → Prop) : Prop :=
  ∀ i t, tasks[i]? = some t → Φ i t

theorem Each.set {tasks : List (Task α)} {Φ : Nat → Task α → Prop} (h : Each tasks Φ) (i : Nat)
    {t : Task α} (ht : Φ i t) : Each (tasks.set i t) Φ := by
  intro j u hj
  rw [List.getElem?_set] at hj
  split at hj
  · next hij =>
    subst hij
    split at hj
    · cases hj
      exact ht
    · cases hj
  · exact h j u hj

theorem getElem?_tasks_start {β : Type} (s : σ) (xs : List β) (f : β → Task α) (i : Nat) :
    (start s (xs.map f)).tasks[i]? = xs[i]?.map fun x => (f x).settle.1 := by
  simp [start, List.getElem?_map, Function.comp_def]

theorem length_tasks_start {β : Type} (s : σ) (xs : List β) (f : β → Task α) :
    (start s (xs.map f)).tasks.length = xs.length := by
  rw [start, List.length_map, List.length_map]

theorem Each.start {β : Type} (s : σ) {xs : List β} {f : β → Task α} {Φ : Nat → Task α → Prop}
    (h : ∀ i x, xs[i]? = some x → Φ i (f x).settle.1) :
    Each (Pool.start s (xs.map f)).tasks Φ := by
  intro i t ht
  rw [getElem?_tasks_start] at ht
  obtain ⟨x, hx, rfl⟩ := Option.map_eq_some_iff.1 ht
  exact h i x hx

theorem step_other {p : Pool σ α} {i j : Nat} (h : j ≠ i) :
    (p.step serve j).tasks[i]? = p.tasks[i]? := by
  obtain ⟨c, next, -, -, htasks, -⟩ | ⟨-, -, htasks, -⟩ := step_cases serve p j
  · rw [htasks, List.getElem?_set_ne h]
  · rw [htasks]

theorem run_cons (p : Pool σ α) (i : Nat) (rest : List Nat) :
    p.run serve (i :: rest) = (p.step serve i).run serve rest := rfl

theorem run_append (p : Pool σ α) (xs ys : List Nat) :
    p.run serve (xs ++ ys) = (p.run serve xs).run serve ys := List.foldl_append

theorem history_append (p : Pool σ α) (xs ys : List Nat) :
    p.history serve (xs ++ ys) = p.history serve xs ++ (p.run serve xs).history serve ys := by
  induction xs generalizing p with
  | nil => rfl
  | cons i xs ih => simp only [List.cons_append, history, ih, run_cons, List.append_assoc]

theorem run_other {p : Pool σ α} {schedule : List Nat} {i : Nat} (h : i ∉ schedule) :
    (p.run serve schedule).tasks[i]? = p.tasks[i]? := by
  induction schedule generalizing p with
  | nil => rfl
  | cons j rest ih =>
    have hij : j ≠ i := Ne.symm (List.ne_of_not_mem_cons h)
    rw [run_cons, ih (List.not_mem_of_not_mem_cons h), step_other hij]

theorem length_tasks_step (p : Pool σ α) (i : Nat) :
    (p.step serve i).tasks.length = p.tasks.length := by
  unfold step
  split <;> simp

theorem length_tasks_run (p : Pool σ α) (schedule : List Nat) :
    (p.run serve schedule).tasks.length = p.tasks.length := by
  induction schedule generalizing p with
  | nil => rfl
  | cons i rest ih => rw [run_cons, ih, length_tasks_step]

theorem caller_lt_of_mem_history {p : Pool σ α} {schedule : List Nat} {e : Event}
    (he : e ∈ p.history serve schedule) : e.caller < p.tasks.length := by
  induction schedule generalizing p with
  | nil => cases he
  | cons i rest ih =>
    rcases List.mem_append.1 he with he | he
    · unfold events at he
      split at he
      · next h =>
        obtain ⟨hi, -⟩ := List.getElem?_eq_some_iff.1 h
        rw [List.mem_singleton.1 he]
        exact hi
      · cases he
    · have hlt := ih he
      rwa [length_tasks_step] at hlt

/-- A property of state and history that every call of the allowed kinds keeps holds after every
run of tasks that make no other calls. -/
theorem run_invariant {P : Nat → StoreCall → Prop} (inv : σ × List Event → Prop)
    (keeps : ∀ i c x, P i c → inv x → inv (serve.recording i c x).2)
    (p : Pool σ α) (h : List Event) (asks : Each p.tasks fun i t => ∃ n, t.Asks (P i) n)
    (start : inv (p.state, h)) (schedule : List Nat) :
    inv ((p.run serve schedule).state, h ++ p.history serve schedule) := by
  induction schedule generalizing p h with
  | nil => simpa [run, history] using start
  | cons i rest ih =>
    rw [run_cons, history, ← List.append_assoc]
    obtain ⟨c, next, ht, hstate, htasks, hevents⟩ | ⟨-, hstate, htasks, hevents⟩ :=
      step_cases serve p i
    · obtain ⟨n, -, hc, hnext⟩ := asks i _ ht
      apply ih
      · rw [htasks]
        exact asks.set i ⟨n - 1, Task.asks_settle.2 (hnext _)⟩
      · rw [hstate, hevents]
        exact keeps i c (p.state, h) hc start
    · apply ih
      · rwa [htasks]
      · rwa [hstate, hevents, List.append_nil]

end Pool

end Permits
