import Permits.Proofs.Provision.Convergence

namespace Permits

open MemoryStore

theorem writeGuardId_ne_securityId : writeGuardId ≠ securityId := by decide

namespace Step

def ending (db : String) (s : MemoryStore) : Step → Status
  | (id, some _) =>
    if id ≠ securityId ∧ (s.document db id).isSome then .updated else .created
  | (id, none) => if (s.document db id).isSome then .removed else .absent

def effect (db : String) (s : MemoryStore) (step : Step) : MemoryStore :=
  if step.writes db s then s.written db step.1 (stepBody step) else s

end Step

section Undisturbed

variable {db : String} {s : MemoryStore} {a : Artifacts} {step : Step} {steps : List Step}

theorem conclude_eq_ending (hw : step.writes db s = true) (r : Option String) :
    step.conclude (s.currentRev db step.1) (.ok r) = .ok (step.ending db s) := by
  obtain ⟨id, _ | body⟩ := step
  · have hlive : (s.document db id).isSome = true := hw
    simp [Step.conclude, Step.ending, hlive]
  · simp [Step.conclude, Step.ending, isSome_currentRev]

theorem run_performStep (h : step.Sound) (hq : s.Quiet) (hex : s.databaseExists db = true) :
    (performStep db step).run serve s = (.ok (step.ending db s), step.effect db s, []) := by
  rw [performStep_eq]
  simp only [Task.run, h.judge_eq hq, serve_get_state hq, Step.effect]
  cases hw : step.writes db s with
  | true =>
    simp only [if_true, Task.run, serve_insert_of_accepts hq (h.accepts hex hw),
      conclude_eq_ending hw]
  | false =>
    obtain ⟨id, w⟩ := step
    obtain ⟨rfl, hnone⟩ : w = none ∧ s.document db id = none := by
      simpa [Step.writes] using hw
    simp [Task.run, Step.ending, hnone]

/-- What steps for documents of one database leave behind. -/
structure Performed (db : String) (steps : List Step) (s s' : MemoryStore) : Prop where
  quiet : s'.Quiet
  exist : s'.databaseExists db = true
  documents : ∀ step ∈ steps, s'.document db step.1 = step.2
  unread : ∀ id, (∀ step ∈ steps, id ≠ step.1) → s'.document db id = s.document db id
  others : ∀ id, (∀ step ∈ steps, id ≠ step.1) → s'.stored db id = s.stored db id
  frame : ∀ other, other ≠ db → s'.databases.find? other = s.databases.find? other
  writes : s'.writes = s.writes + steps.countP (Step.writes db s)

theorem performed_nil (hq : s.Quiet) (hex : s.databaseExists db = true) : Performed db [] s s :=
  ⟨hq, hex, nofun, fun _ _ => rfl, fun _ _ => rfl, fun _ _ => rfl, rfl⟩

theorem performed_effect (hq : s.Quiet) (hex : s.databaseExists db = true) (h : step ∈ a.steps) :
    Performed db [step] s (step.effect db s) := by
  have hid {id : String} (hid : ∀ other ∈ [step], id ≠ other.1) : id ≠ step.1 :=
    hid step (List.mem_singleton_self step)
  unfold Step.effect
  cases hw : step.writes db s with
  | true =>
    rw [if_pos rfl]
    refine ⟨quiet_written hq .., ?_, ?_, fun id h => ?_, fun id h => ?_, fun _ h => ?_, ?_⟩
    · rw [databaseExists_written]
      exact hex
    · rintro _ hstep
      rw [List.mem_singleton.1 hstep]
      exact (Artifacts.aims_goals db 0 step h).document_written (x := (s, [])) ⟨hq, hex⟩
    · exact document_written_of_ne (hid h) s db _
    · exact stored_written_of_ne (hid h) s db _
    · exact find?_written_of_ne h _ _
    · rw [writes_written hex, List.countP_singleton, hw, if_pos rfl]
  | false =>
    rw [if_neg Bool.false_ne_true]
    refine ⟨hq, hex, ?_, fun _ _ => rfl, fun _ _ => rfl, fun _ _ => rfl, ?_⟩
    · rintro _ hstep
      simp only [Step.writes, Bool.or_eq_false_iff, Option.isSome_eq_false_iff,
        Option.isNone_iff_eq_none] at hw
      rw [List.mem_singleton.1 hstep, hw.1, hw.2]
    · rw [List.countP_singleton, hw, if_neg Bool.false_ne_true]
      rfl

theorem Step.writes_congr {s' : MemoryStore} (h : s'.document db step.1 = s.document db step.1) :
    step.writes db s' = step.writes db s := by
  rw [Step.writes, Step.writes, h]

theorem Step.ending_congr {s' : MemoryStore} (h : s'.document db step.1 = s.document db step.1) :
    step.ending db s' = step.ending db s := by
  obtain ⟨id, _ | body⟩ := step <;> simp only [Step.ending, h]

theorem Step.ending_guard {id : String} (hid : id ≠ securityId) (body : Members) :
    Step.ending db s (id, some body) =
      if (s.document db id).isSome then .updated else .created := by
  cases hb : (s.document db id).isSome <;> simp [Step.ending, hid, hb]

/-- Steps for different documents do not get in each other's way. -/
theorem Performed.cons {s' s'' : MemoryStore} (hstep : Performed db [step] s s')
    (hrest : Performed db steps s' s'') (hne : ∀ other ∈ steps, other.1 ≠ step.1) :
    Performed db (step :: steps) s s'' := by
  have hid {id : String} (hid : ∀ other ∈ step :: steps, id ≠ other.1) :
      (∀ other ∈ [step], id ≠ other.1) ∧ ∀ other ∈ steps, id ≠ other.1 :=
    ⟨fun other h => hid other (List.mem_singleton.1 h ▸ List.mem_cons_self),
      fun other h => hid other (List.mem_cons_of_mem step h)⟩
  refine ⟨hrest.quiet, hrest.exist, ?_, ?_, ?_, ?_, ?_⟩
  · intro other hother
    rcases List.mem_cons.1 hother with rfl | hother
    · rw [hrest.unread _ fun o ho => (hne o ho).symm]
      exact hstep.documents _ (List.mem_singleton_self _)
    · exact hrest.documents other hother
  · intro id h
    rw [hrest.unread id (hid h).2, hstep.unread id (hid h).1]
  · intro id h
    rw [hrest.others id (hid h).2, hstep.others id (hid h).1]
  · intro other h
    rw [hrest.frame other h, hstep.frame other h]
  · have hcount : steps.countP (Step.writes db s') = steps.countP (Step.writes db s) := by
      apply List.countP_congr
      intro other hother
      rw [Step.writes_congr (hstep.unread _ fun o ho => List.mem_singleton.1 ho ▸ hne other hother)]
    have hsingle := hstep.writes
    rw [List.countP_singleton] at hsingle
    rw [hrest.writes, hsingle, hcount, List.countP_cons]
    omega

/-- A pass that nothing disturbs is the sequence of its steps, each ending as the documents that it
found ask for. -/
theorem run_performSteps (hq : s.Quiet) (hex : s.databaseExists db = true)
    (hsteps : ∀ step ∈ steps, step ∈ a.steps) (hne : steps.Pairwise fun x y => y.1 ≠ x.1)
    (report : PermissionReport) :
    ∃ s', (performSteps db steps report).run serve s =
        ({ report with
            artifacts := report.artifacts ++ steps.map fun step => ⟨step.1, step.ending db s⟩ },
          s', (steps.map (Step.ending db s)).filterMap Status.counter?) ∧
      Performed db steps s s' := by
  induction steps generalizing report s with
  | nil =>
    refine ⟨s, ?_, performed_nil hq hex⟩
    simp [performSteps, Task.run, pure]
  | cons step rest ih =>
    obtain ⟨hfirst, hrest⟩ := List.pairwise_cons.1 hne
    have hstep := performed_effect hq hex (hsteps step List.mem_cons_self)
    obtain ⟨s', hrun, hperformed⟩ := ih hstep.quiet hstep.exist
      (fun other h => hsteps other (List.mem_cons_of_mem step h)) hrest
      (report.record step.1 (step.ending db s))
    -- the first step leaves the documents of the other steps as they were
    have hending (other : Step) (h : other ∈ rest) :
        other.ending db (step.effect db s) = other.ending db s :=
      Step.ending_congr (hstep.unread _ fun o ho => List.mem_singleton.1 ho ▸ hfirst other h)
    have hendings : rest.map (Step.ending db (step.effect db s)) = rest.map (Step.ending db s) :=
      List.map_congr_left hending
    have hreports : (rest.map fun other => (⟨other.1, other.ending db (step.effect db s)⟩ :
        ArtifactReport)) = rest.map fun other => ⟨other.1, other.ending db s⟩ :=
      List.map_congr_left fun other h => by rw [hending other h]
    refine ⟨s', ?_, hstep.cons hperformed hfirst⟩
    rw [performSteps_cons, Task.run_bind, run_performStep
      (Artifacts.sound_of_mem_steps (hsteps step List.mem_cons_self)) hq hex]
    simp only [Task.run_bind, run_countStatus, hrun, hreports, hendings]
    cases hcounter : (step.ending db s).counter? <;> simp [PermissionReport.record, hcounter]

end Undisturbed

/-- What one pass over the permissions of a database answers and leaves behind, where nothing fails
and nobody else is at work. -/
structure Repaired (a : Artifacts) (db : String) (s s' : MemoryStore) (r : PermissionReport) :
    Prop where
  warnings : r.warnings = []
  statuses : r.artifacts =
    [⟨securityId, .created⟩,
     ⟨writeGuardId, if (s.document db writeGuardId).isSome then .updated else .created⟩,
     ⟨deleteGuardId,
      if a.deleteGuard.isSome then
        if (s.document db deleteGuardId).isSome then .updated else .created
      else
        if (s.document db deleteGuardId).isSome then .removed else .absent⟩]
  descriptor : s'.document db securityId = some a.descriptor.body
  writeGuard : s'.document db writeGuardId = some a.writeGuard.body
  deleteGuard : s'.document db deleteGuardId = a.deleteGuard.map GuardRule.body
  others : ∀ id, id ≠ securityId → id ≠ writeGuardId → id ≠ deleteGuardId →
    s'.stored db id = s.stored db id
  frame : ∀ other, other ≠ db → s'.databases.find? other = s.databases.find? other
  writes : s'.writes = s.writes + 2 +
    if a.deleteGuard.isSome || (s.document db deleteGuardId).isSome then 1 else 0
  quiet : s'.Quiet
  exist : s'.databaseExists db = true

section Pass

variable {db : String} {s s' : MemoryStore} {a : Artifacts} {r : PermissionReport}

theorem applyPermissions_repairs_once (a : Artifacts) (hq : s.Quiet)
    (hex : s.databaseExists db = true) :
    Repaired a db s ((applyPermissions db a).run serve s).2.1
      ((applyPermissions db a).run serve s).1 := by
  have hne : a.steps.Pairwise fun x y => y.1 ≠ x.1 := by
    simp [Artifacts.steps_eq, securityId, writeGuardId, deleteGuardId]
  obtain ⟨s', hrun, hperformed⟩ :=
    run_performSteps hq hex (fun _ h => h) hne { database := db }
  have hwrites := hperformed.writes
  rw [applyPermissions, hrun]
  simp only [Artifacts.steps_eq, List.map_cons, List.map_nil, List.countP_cons, List.countP_nil]
    at hwrites ⊢
  refine ⟨rfl, ?_, hperformed.documents _ (Artifacts.mem_steps.2 (.inl rfl)),
    hperformed.documents _ (Artifacts.mem_steps.2 (.inr (.inl rfl))),
    hperformed.documents _ (Artifacts.mem_steps.2 (.inr (.inr rfl))), ?_, hperformed.frame, ?_,
    hperformed.quiet, hperformed.exist⟩
  · rw [Step.ending_guard writeGuardId_ne_securityId]
    cases a.deleteGuard with
    | none => rfl
    | some rule => rw [Option.map_some, Step.ending_guard deleteGuardId_ne_securityId]; rfl
  · intro id hsecurity hwrite hdelete
    apply hperformed.others
    intro step hstep
    rcases Artifacts.mem_steps.1 hstep with rfl | rfl | rfl
    · exact hsecurity
    · exact hwrite
    · exact hdelete
  · have hinstalls (id : String) (body : Members) : Step.writes db s (id, some body) = true := rfl
    have hdelete : Step.writes db s (deleteGuardId, a.deleteGuard.map GuardRule.body) =
        (a.deleteGuard.isSome || (s.document db deleteGuardId).isSome) := by
      rw [Step.writes, Option.isSome_map]
    rw [hwrites, hdelete, hinstalls, hinstalls, if_pos rfl]
    omega

/-- What a reader finds in any document after a pass depends on the artifacts alone where it is one
of the three documents of the pass, and else on what was there. -/
theorem Repaired.document_eq (h : Repaired a db s s' r) (db' id : String) :
    s'.document db' id =
      if db' = db ∧ (id = securityId ∨ id = writeGuardId ∨ id = deleteGuardId) then a.target id
      else s.document db' id := by
  by_cases hdb : db' = db
  · subst hdb
    by_cases hid : id = securityId ∨ id = writeGuardId ∨ id = deleteGuardId
    · rw [if_pos ⟨rfl, hid⟩]
      rcases hid with rfl | rfl | rfl
      · exact h.descriptor
      · exact h.writeGuard
      · exact h.deleteGuard
    · rw [if_neg fun hall => hid hall.2]
      simp only [not_or] at hid
      obtain ⟨hsecurity, hwrite, hdelete⟩ := hid
      rw [document_of_ne hsecurity, document_of_ne hsecurity, h.others id hsecurity hwrite hdelete]
  · rw [if_neg fun hall => hdb hall.1]
    simp only [document, h.frame db' hdb]

/-- A pass repairs any state, and another pass changes nothing that a reader can see. -/
theorem applyPermissions_repairs (a : Artifacts) (hq : s.Quiet)
    (hex : s.databaseExists db = true) :
    let once := (applyPermissions db a).run serve s
    let twice := (applyPermissions db a).run serve once.2.1
    Repaired a db s once.2.1 once.1 ∧
      ∀ db' id, twice.2.1.document db' id = once.2.1.document db' id := by
  intro once twice
  have hrepaired := applyPermissions_repairs_once a hq hex
  refine ⟨hrepaired, ?_⟩
  intro db' id
  rw [(applyPermissions_repairs_once a hrepaired.quiet hrepaired.exist).document_eq,
    hrepaired.document_eq]
  split <;> rfl

/-- A database whose write guard was deleted, with a delete guard that nobody asked for and a
document of its own. -/
def neglected : MemoryStore :=
  ((((empty.withDatabase "db").written "db" writeGuardId []).written "db" writeGuardId
    (stepBody (writeGuardId, none))).written "db" deleteGuardId [("note", .null)]).written "db" "doc"
      [("text", .string "kept")]

/-- The owner alone may write: the write guard comes back and the delete guard goes. -/
theorem applyPermissions_repairs_neglected :
    ∃ a, (⟨fun _ _ => .ok [], {}⟩ : Provisioner).compile "alice" "app" ⟨none⟩ = .ok a ∧
      neglected.Quiet ∧ neglected.databaseExists "db" = true ∧
      (let once := (applyPermissions "db" a).run serve neglected
       let twice := (applyPermissions "db" a).run serve once.2.1
       Repaired a "db" neglected once.2.1 once.1 ∧
         ∀ db' id, twice.2.1.document db' id = once.2.1.document db' id) ∧
      ((applyPermissions "db" a).run serve neglected).1.artifacts =
        [⟨securityId, .created⟩, ⟨writeGuardId, .created⟩, ⟨deleteGuardId, .removed⟩] := by
  have hq : neglected.Quiet := quiet_written (quiet_written (quiet_written (quiet_written
    (quiet_withDatabase quiet_empty "db") ..) ..) ..) ..
  have hex : neglected.databaseExists "db" = true := by
    simp only [neglected, databaseExists_written, databaseExists_withDatabase]
  have hwrite : (neglected.document "db" writeGuardId).isSome = false := by decide +kernel
  have hdelete : (neglected.document "db" deleteGuardId).isSome = true := by decide +kernel
  refine ⟨_, rfl, hq, hex, applyPermissions_repairs _ hq hex, ?_⟩
  rw [(applyPermissions_repairs _ hq hex).1.statuses, hwrite, hdelete]
  rfl

end Pass

end Permits
