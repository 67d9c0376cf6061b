import Permits.Proofs.Store.History

namespace Permits

namespace Task

variable {σ α β : Type}

/-- Whatever others do along `rely` before each call of the task and after the last one, the task
ends with a result and a state that satisfy `post`. -/
def Safe (serve : Service σ) (rely : σ → σ → Prop) (post : α → σ → Prop) : Task α → σ → Prop
  | done a, s => ∀ s', rely s s' → post a s'
  | count _ t, s => t.Safe serve rely post s
  | call c next, s => ∀ s', rely s s' → (next (serve c s').1).Safe serve rely post (serve c s').2

variable {serve : Service σ} {rely : σ → σ → Prop} {post : α → σ → Prop} {s s' : σ}

theorem Safe.mono {t : Task α} (trans : ∀ x y z, rely x y → rely y z → rely x z)
    (ht : t.Safe serve rely post s) (h : rely s s') : t.Safe serve rely post s' := by
  induction t with
  | done a => exact fun u hu => ht u (trans _ _ _ h hu)
  | count k t ih => exact ih ht
  | call c next ih => exact fun u hu => ht u (trans _ _ _ h hu)

theorem Safe.weaken {goal : α → σ → Prop} {t : Task α} (ht : t.Safe serve rely post s)
    (h : ∀ a x, post a x → goal a x) : t.Safe serve rely goal s := by
  induction t generalizing s with
  | done a => exact fun u hu => h a u (ht u hu)
  | count k t ih => exact ih ht
  | call c next ih => exact fun u hu => ih _ (ht u hu)

theorem safe_settle {t : Task α} :
    t.settle.1.Safe serve rely post s ↔ t.Safe serve rely post s := by
  induction t with
  | done a => exact Iff.rfl
  | count k t ih => exact ih
  | call c next ih => exact Iff.rfl

/-- What follows a task may rely on what the task has reached. -/
theorem Safe.bind {t : Task α} {f : α → Task β} {goal : β → σ → Prop} (refl : ∀ x, rely x x)
    (ht : t.Safe serve rely post s) (hf : ∀ a u, post a u → (f a).Safe serve rely goal u) :
    (t.bind f).Safe serve rely goal s := by
  induction t generalizing s with
  | done a => exact hf a s (ht s (refl s))
  | count k t ih => exact ih ht
  | call c next ih => exact fun u hu => ih _ (ht u hu)

/-- A task that runs alone meets the least of what it is safe against. -/
theorem Safe.run {t : Task α} (refl : ∀ x, rely x x) (ht : t.Safe serve rely post s) :
    post (t.run serve s).1 (t.run serve s).2.1 := by
  induction t generalizing s with
  | done a => exact ht s (refl s)
  | count k t ih => exact ih ht
  | call c next ih => exact ih _ (ht s (refl s))

/-- A relation that the calls of the task and the moves of others both follow leads from the start
of the task to its end. -/
theorem Safe.remember (rel : σ → σ → Prop) {t : Task α} {P : StoreCall → Prop} {x : σ}
    (trans : ∀ x y z, rel x y → rel y z → rel x z) (others : ∀ x y, rely x y → rel x y)
    (own : ∀ c x, P c → rel x (serve c x).2) {n : Nat} (asks : t.Asks P n)
    (ht : t.Safe serve rely post s) (h : rel x s) :
    t.Safe serve rely (fun a y => post a y ∧ rel x y) s := by
  induction t generalizing s n with
  | done a => exact fun u hu => ⟨ht u hu, trans _ _ _ h (others _ _ hu)⟩
  | count k t ih => exact ih asks ht h
  | call c next ih =>
    intro u hu
    have hcall := trans _ _ _ (trans _ _ _ h (others _ _ hu)) (own c u asks.2.1)
    exact ih _ (asks.2.2 _) (ht u hu) hcall

end Task

namespace Pool

variable {σ α : Type} {serve : Service σ}

theorem results?_eq_some_iff {p : Pool σ α} {rs : List α} :
    p.results? = some rs ↔ p.tasks = rs.map Task.done := by
  unfold results?
  generalize p.tasks = ts
  induction ts generalizing rs with
  | nil => cases rs <;> simp
  | cons t ts ih =>
    rw [List.mapM_cons]
    cases t with
    | done a =>
      cases rs with
      | nil => simp [Task.result?, Option.bind_eq_some_iff]
      | cons b rs => simpa [Task.result?, ← ih, Option.bind_eq_some_iff] using and_comm
    | count k t => cases rs <;> simp [Task.result?]
    | call c next => cases rs <;> simp [Task.result?]

theorem length_of_results? {p : Pool σ α} {rs : List α} (h : p.results? = some rs) :
    rs.length = p.tasks.length := by
  rw [results?_eq_some_iff.1 h, List.length_map]

theorem results?_isSome {p : Pool σ α} (h : Each p.tasks fun _ t => ∃ a, t = .done a) :
    p.results?.isSome := by
  have hmap : ∃ rs : List α, p.tasks = rs.map Task.done := by
    generalize p.tasks = ts at h ⊢
    induction ts with
    | nil => exact ⟨[], rfl⟩
    | cons t ts ih =>
      obtain ⟨a, rfl⟩ := h 0 t rfl
      obtain ⟨rs, rfl⟩ := ih fun i t ht => h (i + 1) t ht
      exact ⟨a :: rs, rfl⟩
  obtain ⟨rs, hrs⟩ := hmap
  rw [results?_eq_some_iff.2 hrs]
  rfl

theorem run_done {p : Pool σ α} {i n : Nat} {t : Task α} {P : StoreCall → Prop}
    (ht : p.tasks[i]? = some t.settle.1) (hw : t.Asks P n) {schedule : List Nat}
    (hn : n ≤ schedule.count i) :
    ∃ a, (p.run serve schedule).tasks[i]? = some (.done a) := by
  induction schedule generalizing p n t with
  | nil =>
    have hzero : n = 0 := by simpa using hn
    subst hzero
    obtain ⟨a, ha⟩ := Task.done_of_asks_zero hw
    exact ⟨a, ha ▸ ht⟩
  | cons j rest ih =>
    rw [run_cons]
    rw [List.count_cons] at hn
    by_cases hj : j = i
    · subst hj
      obtain ⟨c, next, hc, -, htasks, -⟩ | ⟨hidle, -, htasks, -⟩ := step_cases serve p j
      · obtain ⟨hlt, -⟩ := List.getElem?_eq_some_iff.1 hc
        have hcall : t.settle.1 = .call c next := Option.some.inj (ht.symm.trans hc)
        have hnext := Task.asks_settle.2 hw
        rw [hcall] at hnext
        have hturn : n - 1 ≤ rest.count j := by
          simp only [beq_self_eq_true, if_true] at hn
          omega
        apply ih _ (hnext.2.2 (serve c p.state).1) hturn
        rw [htasks, List.getElem?_set_self hlt]
      · cases hd : t.settle.1 with
        | done a => exact ih (t := .done a) (by rw [htasks, ht, hd]; rfl) trivial (Nat.zero_le _)
        | count k u => exact absurd hd (t.settle_ne_count k u)
        | call c next => exact absurd (ht.trans (congrArg some hd)) (hidle c next)
    · have hturn : n ≤ rest.count i := by
        simpa [hj] using hn
      exact ih (by rw [step_other hj, ht]) hw hturn

theorem count_roundRobin {n i : Nat} (hi : i < n) (rounds : Nat) :
    (roundRobin n rounds).count i = rounds := by
  simp [roundRobin, List.count_flatten, List.count_range, hi]

section Safe

variable {rely : Nat → σ × List Event → σ × List Event → Prop}
  {post : Nat → α → σ × List Event → Prop} {P : Nat → StoreCall → Prop}

/-- Tasks that are safe each on its own stay so in every interleaving, as long as the calls that
each may make are moves that all others allow for. -/
theorem run_safe (refl : ∀ i x, rely i x x)
    (trans : ∀ i x y z, rely i x y → rely i y z → rely i x z)
    (moves : ∀ i j c x, i ≠ j → P i c → rely j x (serve.recording i c x).2)
    (p : Pool σ α) (h : List Event) (asks : Each p.tasks fun i t => ∃ n, t.Asks (P i) n)
    (safe : Each p.tasks fun i t => t.Safe (serve.recording i) (rely i) (post i) (p.state, h))
    (schedule : List Nat) :
    Each (p.run serve schedule).tasks fun i t => t.Safe (serve.recording i) (rely i) (post i)
      ((p.run serve schedule).state, h ++ p.history serve schedule) := by
  induction schedule generalizing p h with
  | nil => simpa [run, history] using safe
  | cons i rest ih =>
    rw [run_cons, history, ← List.append_assoc]
    obtain ⟨c, next, ht, hstate, htasks, hevents⟩ | ⟨-, hstate, htasks, hevents⟩ :=
      step_cases serve p i
    · obtain ⟨n, -, hc, hnext⟩ := asks i _ ht
      apply ih
      · rw [htasks]
        exact asks.set i ⟨n - 1, Task.asks_settle.2 (hnext _)⟩
      · rw [htasks, hstate, hevents]
        intro j t hj
        rw [List.getElem?_set] at hj
        split at hj
        · next hij =>
          subst hij
          split at hj
          · cases hj
            exact Task.safe_settle.2 (safe i _ ht _ (refl i _))
          · cases hj
        · next hij =>
          exact (safe j t hj).mono (trans j) (moves i j c (p.state, h) hij hc)
    · apply ih
      · rwa [htasks]
      · rwa [htasks, hstate, hevents, List.append_nil]

theorem post_of_results? (refl : ∀ i x, rely i x x) {p : Pool σ α} {x : σ × List Event}
    (safe : Each p.tasks fun i t => t.Safe (serve.recording i) (rely i) (post i) x)
    {rs : List α} (hrs : p.results? = some rs) {i : Nat} {a : α} (ha : rs[i]? = some a) :
    post i a x := by
  have ht : p.tasks[i]? = some (.done a) := by
    rw [results?_eq_some_iff.1 hrs, List.getElem?_map, ha]
    rfl
  exact safe i _ ht x (refl i x)

/-- The part `t` of a task can be run alone to its end. -/
theorem exists_run_alone {β : Type} {goal : β → σ × List Event → Prop} {t : Task β}
    {f : β → Task α} {p : Pool σ α} {i : Nat} (h : List Event)
    (ht : p.tasks[i]? = some (t.bind f).settle.1)
    (safe : t.Safe (serve.recording i) Eq goal (p.state, h)) :
    ∃ n b, (p.run serve (List.replicate n i)).tasks = p.tasks.set i (f b).settle.1 ∧
      goal b ((p.run serve (List.replicate n i)).state,
        h ++ p.history serve (List.replicate n i)) := by
  induction t generalizing p h with
  | done b =>
    obtain ⟨hi, hb⟩ := List.getElem?_eq_some_iff.1 ht
    refine ⟨0, b, ?_, ?_⟩
    · rw [List.replicate_zero]
      exact (hb ▸ List.set_getElem_self hi).symm
    · rw [List.replicate_zero, history, List.append_nil]
      exact safe _ rfl
  | count k t ih => exact ih h ht safe
  | call c next ih =>
    obtain ⟨c', next', ht', hstate, htasks, hevents⟩ | ⟨hidle, -, -, -⟩ := step_cases serve p i
    · cases ht.symm.trans ht'
      obtain ⟨hi, -⟩ := List.getElem?_eq_some_iff.1 ht
      have hget : (p.step serve i).tasks[i]? =
          some ((next (serve c p.state).1).bind f).settle.1 := by
        rw [htasks, List.getElem?_set_self hi]
      have hsafe := safe _ rfl
      obtain ⟨n, b, hrun, hgoal⟩ := ih (serve c p.state).1 (h ++ p.events serve i) hget
        (by rw [hstate, hevents]; exact hsafe)
      refine ⟨n + 1, b, ?_, ?_⟩
      · rw [List.replicate_succ, run_cons, hrun, htasks, List.set_set]
      · rw [List.replicate_succ, run_cons, history, ← List.append_assoc]
        exact hgoal
    · exact absurd ht (hidle c _)

end Safe

end Pool

end Permits
