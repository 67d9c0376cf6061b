import Permits.Proofs.Provision.Calls
import Permits.Proofs.Store.Interference

namespace Permits

open MemoryStore

/-- What the documents of a database are to come to. A goal stays reached while its document is not
written. -/
structure Goals (db : String) where
  reached : String → Moment → Prop
  frame : ∀ id x s e, reached id x → s.document db id = x.1.document db id →
    e.wrote db id = false → reached id (s, x.2 ++ [e])

structure Ready (db : String) (x : Moment) : Prop where
  quiet : x.1.Quiet
  exist : x.1.databaseExists db = true

/-- What may happen to the documents of a database while others are at work: reached goals stay
reached, and a document that has changed has reached its goal. -/
structure Settles {db : String} (g : Goals db) (x y : Moment) : Prop where
  ready : Ready db y
  keeps : ∀ id, g.reached id x → g.reached id y
  settled : ∀ id, id ≠ securityId → y.1.stored db id = x.1.stored db id ∨ g.reached id y

/-- The moves that tasks allow for. Nothing is promised before the database exists. -/
def Moves {db : String} (g : Goals db) (x y : Moment) : Prop :=
  x.1.Quiet → y.1.Quiet ∧ (x.1.databaseExists db = true → Settles g x y)

/-- Writing the document of a step reaches the goal, and where the step removes a document, so does
finding none. -/
structure Aims {db : String} (g : Goals db) (i : Nat) (step : Step) : Prop where
  plain : step.1 ≠ securityId → ∀ body, step.2 = some body →
    deletes body = false ∧ content body = body
  retires : step.2 = none → step.1 ≠ securityId
  written : ∀ s h e, e.caller = i → e.wrote db step.1 = true →
    s.document db step.1 = step.2 → g.reached step.1 (s, h ++ [e])
  absent : step.2 = none → ∀ x : Moment, x.1.document db step.1 = none → g.reached step.1 x

section Moves

variable {db : String} {g : Goals db} {x y z : Moment}

theorem Moves.refl (g : Goals db) (x : Moment) : Moves g x x :=
  fun hq => ⟨hq, fun hex => ⟨⟨hq, hex⟩, fun _ h => h, fun _ _ => .inl rfl⟩⟩

theorem Settles.trans (hxy : Settles g x y) (hyz : Settles g y z) : Settles g x z := by
  refine ⟨hyz.ready, fun id h => hyz.keeps id (hxy.keeps id h), ?_⟩
  intro id hid
  rcases hyz.settled id hid with hz | hz
  · rcases hxy.settled id hid with hy | hy
    · exact .inl (hz.trans hy)
    · exact .inr (hyz.keeps id hy)
  · exact .inr hz

theorem Moves.trans (hxy : Moves g x y) (hyz : Moves g y z) : Moves g x z := by
  intro hq
  obtain ⟨hy, hxy⟩ := hxy hq
  obtain ⟨hz, hyz⟩ := hyz hy
  exact ⟨hz, fun hex => (hxy hex).trans (hyz (hxy hex).ready.exist)⟩

theorem Moves.settles (h : Moves g x y) (hx : Ready db x) : Settles g x y :=
  (h hx.quiet).2 hx.exist

theorem moves_of_same {e : Event} (he : ∀ id, e.wrote db id = false) :
    Moves g x (x.1, x.2 ++ [e]) :=
  fun hq => ⟨hq, fun hex =>
    ⟨⟨hq, hex⟩, fun id h => g.frame id x x.1 e h rfl (he id), fun _ _ => .inl rfl⟩⟩

theorem Aims.document_written {i : Nat} {step : Step} (ha : Aims g i step) (hx : Ready db x) :
    (x.1.written db step.1 (stepBody step)).document db step.1 = step.2 :=
  document_written_step hx.exist ha.plain ha.retires

theorem Aims.settles_written {i : Nat} {step : Step} (ha : Aims g i step) (hx : Ready db x)
    {rev : Option String} {r : Option String} {e : Event}
    (he : e = ⟨i, .insert db step.1 (.object (stepBody step)) rev, .ok r⟩) :
    Settles g x (x.1.written db step.1 (stepBody step), x.2 ++ [e]) ∧
    g.reached step.1 (x.1.written db step.1 (stepBody step), x.2 ++ [e]) := by
  have hself : e.wrote db step.1 = true := by
    subst he
    simp [Event.wrote]
  have hgoal := ha.written _ x.2 e (by rw [he]) hself (ha.document_written hx)
  have hother (id : String) (hid : id ≠ step.1) : e.wrote db id = false := by
    subst he
    simp [Event.wrote, Ne.symm hid]
  refine ⟨⟨⟨quiet_written hx.quiet .., ?_⟩, ?_, ?_⟩, hgoal⟩
  · rw [databaseExists_written]
    exact hx.exist
  · intro id h
    by_cases hid : id = step.1
    · exact hid ▸ hgoal
    · exact g.frame id x _ e h (document_written_of_ne hid ..) (hother id hid)
  · intro id _
    by_cases hid : id = step.1
    · exact .inr (hid ▸ hgoal)
    · exact .inl (stored_written_of_ne hid ..)

/-- Every call that tasks with these aims make is a move that the others allow for. -/
theorem moves_of_call {i : Nat} {steps : List Step} (aims : ∀ step ∈ steps, Aims g i step)
    {c : StoreCall} (hc : Provisioner.ProvisionCall db steps c) (x : Moment) :
    Moves g x (serve.recording i c x).2 := by
  intro hq
  have hout := Provisioner.outcome_of_call hq i hc
  generalize (serve.recording i c x).2 = y at hout ⊢
  cases hout with
  | same e _ hwrote _ => exact moves_of_same hwrote hq
  | made hex =>
    refine ⟨quiet_withDatabase hq db, fun hex' => ?_⟩
    rw [hex] at hex'
    cases hex'
  | wrote step hstep rev r hex =>
    obtain ⟨hs, -⟩ := (aims step hstep).settles_written ⟨hq, hex⟩ rfl
    exact ⟨hs.ready.quiet, fun _ => hs⟩

end Moves

/-- A write over the revision goes through, unless the goal is reached already. -/
structure Fetched {db : String} (g : Goals db) (id : String) (rev : Option String)
    (deleting : Bool) (x : Moment) : Prop where
  ready : Ready db x
  current : g.reached id x ∨ x.1.accepts db id rev deleting = true

section Safe

variable {db : String} {g : Goals db} {i : Nat} {rely : Moment → Moment → Prop} {x y : Moment}

theorem Fetched.settles {id : String} {rev : Option String} {deleting : Bool}
    (h : Fetched g id rev deleting x) (hxy : Settles g x y) : Fetched g id rev deleting y := by
  refine ⟨hxy.ready, ?_⟩
  rcases h.current with hx | hx
  · exact .inl (hxy.keeps id hx)
  · by_cases hid : id = securityId
    · right
      simp [accepts, hxy.ready.exist, hid]
    · rcases hxy.settled id hid with hsame | hreached
      · right
        simpa [accepts, hsame, h.ready.exist, hxy.ready.exist] using hx
      · exact .inl hreached

/-- What a task that is to reach the goal of a document ends with. -/
structure Reaches {db : String} (g : Goals db) (id : String) {α : Type} (r : Except StoreError α)
    (x : Moment) : Prop where
  ok : ∃ a, r = .ok a
  ready : Ready db x
  reached : g.reached id x

theorem Reaches.settles {id : String} {α : Type} {r : Except StoreError α} (h : Reaches g id r x)
    (hxy : Settles g x y) : Reaches g id r y :=
  ⟨h.ok, hxy.ready, hxy.keeps id h.reached⟩

variable (moves : ∀ x y, rely x y → Moves g x y)
include moves

/-- After a call that changed nothing, others go on from the state before it. -/
theorem settles_after_same (hx : Ready db x) {e : Event} (he : ∀ id, e.wrote db id = false)
    (hy : rely (x.1, x.2 ++ [e]) y) : Settles g x y :=
  ((moves_of_same he).trans (moves _ y hy)).settles hx

theorem safe_currentRevision (hx : Ready db x) (id : String) :
    (Task.currentRevision db id).Safe (serve.recording i) rely
      (fun r y => ∃ rev, r = .ok rev ∧ Fetched g id rev false y) x := by
  intro y hxy
  have hy := ((moves x y hxy).settles hx).ready
  have hfetched : Fetched g id (y.1.currentRev db id) false y :=
    ⟨hy, .inr (accepts_currentRev hy.exist)⟩
  cases hb : y.1.document db id with
  | some body =>
    simp only [Service.recording, serve_get_live hy.quiet hb]
    intro z hz
    exact ⟨_, rfl, hfetched.settles (settles_after_same moves hy (fun _ => rfl) hz)⟩
  | none =>
    obtain ⟨text, hget⟩ := serve_get_missing hy.quiet hb
    rw [currentRev_of_missing hb] at hfetched
    simp only [Service.recording, hget]
    intro z hz
    exact ⟨none, rfl, hfetched.settles (settles_after_same moves hy (fun _ => rfl) hz)⟩

/-- A write of a step over a revision that was fetched reaches the goal, be it as a write of its own
or as a conflict. -/
theorem safe_write {step : Step} (ha : Aims g i step) {rev : Option String}
    (hx : Fetched g step.1 rev (deletes (stepBody step)) x) {α : Type}
    {next : Except StoreError (Option String) → Task (Except StoreError α)}
    (hok : ∀ r, ∃ a, next (.ok r) = .done (.ok a))
    (hstale : ∃ a, next (.error stale) = .done (.ok a)) :
    ((Task.insert db step.1 (.object (stepBody step)) rev).bind next).Safe
      (serve.recording i) rely (Reaches g step.1) x := by
  intro y hxy
  have hy := hx.settles ((moves x y hxy).settles hx.ready)
  cases hacc : y.1.accepts db step.1 rev (deletes (stepBody step)) with
  | true =>
    obtain ⟨a, hnext⟩ := hok (y.1.writtenRev db step.1 (stepBody step))
    simp only [Service.recording, serve_insert_of_accepts hy.ready.quiet hacc, Task.bind, hnext]
    intro z hz
    obtain ⟨hs, hreached⟩ := ha.settles_written hy.ready rfl
    exact Reaches.settles ⟨⟨a, rfl⟩, hs.ready, hreached⟩ ((moves _ z hz).settles hs.ready)
  | false =>
    obtain ⟨a, hnext⟩ := hstale
    simp only [Service.recording, serve_insert_of_not_accepts hy.ready.quiet hy.ready.exist hacc,
      Task.bind, hnext]
    intro z hz
    have hreached : g.reached step.1 y := by
      rcases hy.current with h | h
      · exact h
      · rw [hacc] at h
        cases h
    exact Reaches.settles ⟨⟨a, rfl⟩, hy.ready, hreached⟩
      (settles_after_same moves hy.ready (fun _ => rfl) hz)

theorem safe_upsert (refl : ∀ x, rely x x) {id : String} {body : Members}
    (ha : Aims g i (id, some body)) (hx : Ready db x) :
    (Task.upsert db id (.object body)).Safe (serve.recording i) rely (Reaches g id) x := by
  apply (safe_currentRevision moves hx id).bind refl
  rintro r y ⟨rev, rfl, hy⟩
  have hfetched : Fetched g id rev (deletes body) y := by
    by_cases hid : id = securityId
    · exact ⟨hy.ready, .inr (by simp [accepts, hy.ready.exist, hid])⟩
    · rw [(ha.plain hid body rfl).1]
      exact hy
  exact safe_write moves ha hfetched (fun r => ⟨_, rfl⟩) ⟨.converged, rfl⟩

theorem safe_retire {id : String} (ha : Aims g i (id, none))
    (hx : Ready db x) :
    (Task.retire db id).Safe (serve.recording i) rely (Reaches g id) x := by
  intro y hxy
  have hy := ((moves x y hxy).settles hx).ready
  cases hb : y.1.document db id with
  | some body =>
    obtain ⟨rev, hrev, hacc⟩ := accepts_delete (ha.retires rfl) hb
    have hfetched : Fetched g id (some rev) true y := ⟨hy, .inr hacc⟩
    simp only [Service.recording, serve_get_live hy.quiet hb, hrev]
    refine safe_write moves ha (hfetched.settles ?_) (fun r => ⟨_, rfl⟩) ⟨.converged, rfl⟩
    exact (moves_of_same fun _ => rfl).settles hy
  | none =>
    obtain ⟨text, hget⟩ := serve_get_missing hy.quiet hb
    simp only [Service.recording, hget]
    intro z hz
    exact Reaches.settles ⟨⟨.absent, rfl⟩, hy, ha.absent rfl y hb⟩
      (settles_after_same moves hy (fun _ => rfl) hz)

theorem safe_performStep (refl : ∀ x, rely x x) {step : Step} (ha : Aims g i step)
    (hx : Ready db x) :
    (performStep db step).Safe (serve.recording i) rely (Reaches g step.1) x := by
  obtain ⟨id, _ | body⟩ := step
  · apply (safe_retire moves ha hx).bind refl
    rintro r y ⟨⟨a, rfl⟩, hy, hreached⟩
    intro z hz
    exact Reaches.settles ⟨⟨a.status, rfl⟩, hy, hreached⟩ ((moves y z hz).settles hy)
  · apply (safe_upsert moves refl ha hx).bind refl
    rintro r y ⟨⟨a, rfl⟩, hy, hreached⟩
    intro z hz
    exact Reaches.settles ⟨⟨a.status, rfl⟩, hy, hreached⟩ ((moves y z hz).settles hy)

omit moves in
theorem safe_countStatus {σ α : Type} {service : Service σ} {others : σ → σ → Prop}
    {post : α → σ → Prop} {s : σ} (status : Status) (next : Unit → Task α) :
    ((countStatus status).bind next).Safe service others post s ↔
      (next ()).Safe service others post s := by
  cases status <;> exact Iff.rfl

/-- A pass over steps reaches the goals of all of them, whatever others do meanwhile. -/
theorem safe_performSteps (refl : ∀ x, rely x x) {steps : List Step}
    (aims : ∀ step ∈ steps, Aims g i step) (hx : Ready db x) (report : PermissionReport) :
    (performSteps db steps report).Safe (serve.recording i) rely
      (fun r y => r.warnings = report.warnings ∧ Ready db y ∧
        ∀ step ∈ steps, g.reached step.1 y) x := by
  induction steps generalizing report x with
  | nil =>
    intro y hxy
    exact ⟨rfl, ((moves x y hxy).settles hx).ready, nofun⟩
  | cons step rest ih =>
    have hstep := aims step List.mem_cons_self
    have hrest := fun s hs => aims s (List.mem_cons_of_mem step hs)
    apply (safe_performStep moves refl hstep hx).bind refl
    rintro r y ⟨⟨status, rfl⟩, hy, hreached⟩
    have hpass := (ih hrest hy (report.record step.1 status)).remember (Moves g)
      (fun _ _ _ => Moves.trans) moves (fun c z hc => moves_of_call aims (.inr hc) z)
      (asks_performSteps (fun s hs => List.mem_cons_of_mem step hs) _) (Moves.refl g y)
    refine (safe_countStatus _ _).2 (hpass.weaken ?_)
    rintro r z ⟨⟨hwarnings, hz, hgoals⟩, hyz⟩
    refine ⟨hwarnings, hz, ?_⟩
    intro s hs
    rcases List.mem_cons.1 hs with rfl | hs
    · exact (hyz.settles hy).keeps s.1 hreached
    · exact hgoals s hs

theorem safe_applyPermissions (refl : ∀ x, rely x x) {a : Artifacts}
    (aims : ∀ step ∈ a.steps, Aims g i step) (hx : Ready db x) :
    (applyPermissions db a).Safe (serve.recording i) rely
      (fun r y => r.isComplete = true ∧ Ready db y ∧ ∀ step ∈ a.steps, g.reached step.1 y) x := by
  apply (safe_performSteps moves refl aims hx { database := db }).weaken
  rintro r y ⟨hwarnings, hy, hgoals⟩
  refine ⟨?_, hy, hgoals⟩
  rw [PermissionReport.isComplete, hwarnings]
  rfl

end Safe

section Alone

variable {db : String} {α : Type} {p : Pool MemoryStore α} {i : Nat} {rest : List Step}
  {f : PermissionReport → Task α}

def Pending (db : String) (p : Pool MemoryStore α) (i : Nat) (rest : List Step)
    (f : PermissionReport → Task α) : Prop :=
  ∃ r : PermissionReport, r.isComplete = true ∧
    p.tasks[i]? = some ((performSteps db rest r).bind f).settle.1

theorem Pending.other (h : Pending db p i rest f) (schedule : List Nat) (hi : i ∉ schedule) :
    Pending db (p.run serve schedule) i rest f := by
  obtain ⟨r, hr, ht⟩ := h
  exact ⟨r, hr, by rw [Pool.run_other hi, ht]⟩

/-- A task that has all turns for a while performs the next steps of its pass. -/
theorem Pending.advance {g : Goals db} {xs ys : List Step} {before : List Nat}
    (h : Pending db (p.run serve before) i (xs ++ ys) f) (aims : ∀ step ∈ xs, Aims g i step)
    (hx : Ready db (p.after serve before)) :
    ∃ n, Pending db (p.run serve (before ++ List.replicate n i)) i ys f ∧
      Settles g (p.after serve before) (p.after serve (before ++ List.replicate n i)) ∧
      ∀ step ∈ xs, g.reached step.1 (p.after serve (before ++ List.replicate n i)) := by
  obtain ⟨report, hcomplete, ht⟩ := h
  have hmoves (x y : Moment) (hxy : x = y) : Moves g x y := hxy ▸ Moves.refl g x
  have hsafe := (safe_performSteps hmoves (fun _ => rfl) aims hx report).remember (Moves g)
    (fun _ _ _ => Moves.trans) hmoves (fun c y hc => moves_of_call aims (.inr hc) y)
    (asks_performSteps (fun _ hs => hs) report) (Moves.refl g _)
  rw [performSteps_append db xs ys hcomplete, Task.bind_assoc] at ht
  obtain ⟨hi, -⟩ := List.getElem?_eq_some_iff.1 ht
  obtain ⟨n, r, htasks, hgoal⟩ := Pool.exists_run_alone _ ht hsafe
  rw [← Pool.run_append] at htasks hgoal
  rw [← Pool.history_append] at hgoal
  obtain ⟨⟨hwarnings, -, hreached⟩, hxy⟩ := hgoal
  have hr : r.isComplete = true := by
    rw [PermissionReport.isComplete, hwarnings]
    exact hcomplete
  rw [if_pos hr] at htasks
  refine ⟨n, ⟨r, hr, ?_⟩, hxy.settles hx, hreached⟩
  rw [htasks, List.getElem?_set_self hi]

end Alone

end Permits
