import Mathlib.Data.List.Induction
import Permits.Proofs.Provision.Rivals

namespace Permits

open MemoryStore

/-- If every task accounts for its own events of a kind, all of them are accounted for. -/
theorem countP_eq_of_callers {β : Type} {p : Event → Bool} {q : β → Bool} {h : List Event}
    {rs : List β} (callers : ∀ e ∈ h, p e = true → e.caller < rs.length)
    (own : ∀ i r, rs[i]? = some r → h.countP (fun e => e.caller = i && p e) = (q r).toNat) :
    h.countP p = rs.countP q := by
  -- the events of the last task are set apart, by which the kind of event gets narrower
  induction rs using List.reverseRecOn generalizing p with
  | nil =>
    rw [List.countP_nil, List.countP_eq_zero]
    exact fun e he hp => absurd (callers e he hp) (Nat.not_lt_zero _)
  | append_singleton rs r ih =>
    have hlast := own rs.length r List.getElem?_concat_length
    have hrest : h.countP (fun e => p e && decide (e.caller ≠ rs.length)) = rs.countP q := by
      apply ih
      · intro e he hp
        simp only [Bool.and_eq_true, decide_eq_true_eq] at hp
        have hlt := callers e he hp.1
        rw [List.length_append, List.length_singleton] at hlt
        omega
      · intro i r' hr'
        have hi : i < rs.length := (List.getElem?_eq_some_iff.1 hr').1
        rw [← own i r' (by rw [List.getElem?_append_left hi, hr'])]
        apply List.countP_congr
        intro e _
        simp only [Bool.and_eq_true, decide_eq_true_eq]
        constructor
        · exact fun he => ⟨he.1, he.2.1⟩
        · exact fun he => ⟨he.1, he.2, by omega⟩
    have hsplit : h.countP (fun e => p e && !decide (e.caller ≠ rs.length)) = (q r).toNat := by
      rw [← hlast]
      apply List.countP_congr
      simp [and_comm]
    rw [List.countP_eq_countP_filter_add h p fun e => decide (e.caller ≠ rs.length),
      List.countP_filter, List.countP_filter, hrest, hsplit, List.countP_append,
      List.countP_singleton]
    cases q r <;> rfl

/-- Tasks that install the bodies, or retire where there is none, one document, beside tasks about
something else, all of them before their first calls. -/
def rivals (db id : String) (ws : List (Option Members))
    (others : List (Task (Except StoreError Status))) (s : MemoryStore) :
    Pool MemoryStore (Except StoreError Status) :=
  .start s ((ws.map fun w => performStep db (id, w)) ++ others)

def answers? (ws : List (Option Members)) (p : Pool MemoryStore (Except StoreError Status)) :
    Option (List (Except StoreError Status)) :=
  ({ p with tasks := p.tasks.take ws.length } : Pool MemoryStore _).results?

def saysWritten (r : Except StoreError Status) : Bool := r.toOption.any Status.writes

/-- The answers of tasks that contended for a document, against its history and what is left. -/
structure Accounted (db id : String) (ws : List (Option Members)) (s s' : MemoryStore)
    (h : List Event) (rs : List (Except StoreError Status)) : Prop where
  replayed : serve.replay s h = s'
  ok : ∀ r ∈ rs, ∃ status, r = .ok status
  number : s'.versionNumber db id = s.versionNumber db id + rs.countP saysWritten
  /-- The document is as the last of those that say so wrote it. -/
  last : 0 < rs.countP saysWritten →
    ∃ k w r, lastWriter? db id h = some k ∧ ws[k]? = some w ∧ rs[k]? = some r ∧
      saysWritten r = true ∧ s'.document db id = w.map content
  untouched : rs.countP saysWritten = 0 → s'.stored db id = s.stored db id
  replaced : ∀ i, rs[i]? = some (.ok .updated) ∨ rs[i]? = some (.ok .removed) →
    ∃ x : Exchange db id i h, x.Replaces s
  overtaken : ∀ i, rs[i]? = some (.ok .converged) →
    ∃ x : Exchange db id i h, ∃ e ∈ x.between,
      e.wrote db id = true ∧ e.caller ≠ i ∧ e.caller < ws.length

section Contention

variable {db id : String} {ws : List (Option Members)}
  {others : List (Task (Except StoreError Status))} {s : MemoryStore} {schedule : List Nat}
  {rs : List (Except StoreError Status)}

theorem getElem?_rivals {i : Nat} {w : Option Members} (hw : ws[i]? = some w) :
    (rivals db id ws others s).tasks[i]? = some (performStep db (id, w)).settle.1 := by
  have hlt : i < (ws.map fun w => performStep db (id, w)).length := by
    rw [List.length_map]
    exact (List.getElem?_eq_some_iff.1 hw).1
  rw [rivals, Pool.start, List.getElem?_map, List.getElem?_append_left hlt, List.getElem?_map, hw]
  rfl

theorem each_rivals {Φ : Nat → Task (Except StoreError Status) → Prop}
    (contenders : ∀ i w, ws[i]? = some w → Φ i (performStep db (id, w)).settle.1)
    (rest : ∀ i, ws[i]? = none → ∀ t ∈ others, Φ i t.settle.1) :
    Pool.Each (rivals db id ws others s).tasks Φ := by
  intro i t ht
  cases hw : ws[i]? with
  | some w =>
    rw [getElem?_rivals hw] at ht
    cases ht
    exact contenders i w hw
  | none =>
    have hge : (ws.map fun w => performStep db (id, w)).length ≤ i := by
      rw [List.length_map]
      exact List.getElem?_eq_none_iff.1 hw
    rw [rivals, Pool.start, List.getElem?_map, List.getElem?_append_right hge,
      Option.map_eq_some_iff] at ht
    obtain ⟨t, ht, rfl⟩ := ht
    exact rest i hw t (List.mem_of_getElem? ht)

theorem asks_rivals (elsewhere : ∀ t ∈ others, ∃ n, t.Asks (Elsewhere db id) n) :
    Pool.Each (rivals db id ws others s).tasks fun i t => ∃ n, t.Asks (RivalCall db id ws i) n := by
  apply each_rivals
  · intro i w hw
    simp only [RivalCall, hw]
    exact ⟨2, Task.asks_settle.2 (asks_performStep (List.mem_singleton_self _))⟩
  · intro i hw t ht
    simp only [RivalCall, hw]
    obtain ⟨n, hn⟩ := elsewhere t ht
    exact ⟨n, Task.asks_settle.2 hn⟩

theorem done_of_two_turns {i : Nat} (hi : i < ws.length) (turns : 2 ≤ schedule.count i) :
    ∃ r, ((rivals db id ws others s).run serve schedule).tasks[i]? = some (.done r) :=
  Pool.run_done (getElem?_rivals (List.getElem?_eq_getElem hi))
    (asks_performStep (List.mem_singleton_self _)) turns

theorem traced_rivals (reach : Reachable s) (hx : Ready db (s, [])) (hid : id ≠ securityId)
    (plain : Plain ws) (elsewhere : ∀ t ∈ others, ∃ n, t.Asks (Elsewhere db id) n)
    (schedule : List Nat) :
    Traced db id ws s ((rivals db id ws others s).after serve schedule) :=
  Pool.run_invariant (Traced db id ws s)
    (fun _ _ _ hc hx => (hx.call hid plain hc).traced) _ [] (asks_rivals elsewhere)
    (traced_start reach hx) schedule

theorem safe_idle {i : Nat} {x : Moment} (hw : ws[i]? = none)
    (t : Task (Except StoreError Status)) :
    t.Safe (serve.recording i) (Rivalry db id ws s i)
      (fun r y => ∀ w, ws[i]? = some w → Told db id s i r y) x := by
  induction t generalizing x with
  | done r =>
    intro y _ w hw'
    rw [hw] at hw'
    cases hw'
  | count k t ih => exact ih
  | call c next ih => exact fun y _ => ih _

theorem told_rivals (reach : Reachable s) (hx : Ready db (s, [])) (hid : id ≠ securityId)
    (plain : Plain ws) (elsewhere : ∀ t ∈ others, ∃ n, t.Asks (Elsewhere db id) n)
    {i : Nat} {w : Option Members} (hw : ws[i]? = some w) {r : Except StoreError Status}
    (hr : ((rivals db id ws others s).run serve schedule).tasks[i]? = some (.done r)) :
    Told db id s i r ((rivals db id ws others s).after serve schedule) := by
  have hsafe := Pool.run_safe rivalry_refl rivalry_trans
    (fun i j c x hij hc => rivalry_of_call hid plain hij hc)
    (rivals db id ws others s) [] (asks_rivals elsewhere)
    (each_rivals
      (fun i w hw => Task.safe_settle.2
        ((safe_rival hid plain hw (traced_start reach hx) nofun).weaken fun _ _ h _ _ => h))
      (fun i hw t _ => Task.safe_settle.2 (safe_idle hw t))) schedule
  exact hsafe i _ hr _ (rivalry_refl i _) w hw

theorem length_tasks_rivals :
    (rivals db id ws others s).tasks.length = ws.length + others.length := by
  simp [rivals, Pool.start]

theorem length_of_answers?
    (hrs : answers? ws ((rivals db id ws others s).run serve schedule) = some rs) :
    rs.length = ws.length := by
  rw [Pool.length_of_results? hrs, List.length_take, Pool.length_tasks_run, length_tasks_rivals]
  omega

theorem getElem?_of_answers? {p : Pool MemoryStore (Except StoreError Status)}
    (hrs : answers? ws p = some rs) {i : Nat} {r : Except StoreError Status}
    (hr : rs[i]? = some r) : p.tasks[i]? = some (.done r) := by
  have htasks : p.tasks.take ws.length = rs.map Task.done := Pool.results?_eq_some_iff.1 hrs
  have hdone : (p.tasks.take ws.length)[i]? = some (.done r) := by
    rw [htasks, List.getElem?_map, hr]
    rfl
  rw [List.getElem?_take] at hdone
  split at hdone
  · exact hdone
  · cases hdone

/-- All contenders have returned once each has had two turns. -/
theorem answers?_of_two_turns (turns : ∀ i < ws.length, 2 ≤ schedule.count i) :
    (answers? ws ((rivals db id ws others s).run serve schedule)).isSome := by
  apply Pool.results?_isSome
  intro i t ht
  rw [List.getElem?_take] at ht
  split at ht
  · next hi =>
    obtain ⟨r, hr⟩ := done_of_two_turns hi (turns i hi)
    exact ⟨r, Option.some.inj (ht.symm.trans hr)⟩
  · cases ht

theorem countP_wrote_of_told {x : Moment} (hx : Traced db id ws s x) (hlen : rs.length = ws.length)
    (told : ∀ i r, rs[i]? = some r → Told db id s i r x) :
    x.2.countP (Event.wrote db id) = rs.countP saysWritten := by
  apply countP_eq_of_callers
  · rw [hlen]
    exact hx.callers
  · intro i r hr
    obtain ⟨status, rfl, haccount⟩ := told i r hr
    exact haccount.writes

/-- Where each answer tells what its task did, the answers together tell what became of the
document. -/
theorem accounted_of_told {x : Moment} (reach : Reachable s) (hx : Traced db id ws s x)
    (hlen : rs.length = ws.length) (told : ∀ i r, rs[i]? = some r → Told db id s i r x) :
    Accounted db id ws s x.1 x.2 rs := by
  have hcount := countP_wrote_of_told hx hlen told
  have haccount {i : Nat} {status : Status} (hi : rs[i]? = some (.ok status)) :
      Account db id s i x.2 status := by
    obtain ⟨_, hok, haccount⟩ := told i _ hi
    cases hok
    exact haccount
  refine ⟨hx.replayed.symm, ?_, ?_, ?_, ?_, ?_, ?_⟩
  · intro r hr
    obtain ⟨i, hi⟩ := List.mem_iff_getElem?.1 hr
    obtain ⟨status, rfl, -⟩ := told i r hi
    exact ⟨status, rfl⟩
  · rw [versionNumber_eq hx.versioned, versionNumber_eq fun _ h => rev_eq_of_reachable reach h,
      ← hcount]
    exact hx.counted
  · intro hpos
    rw [← hcount] at hpos
    obtain ⟨k, hk⟩ := Option.ne_none_iff_exists'.1 fun hnone =>
      Nat.ne_of_gt hpos (lastWriter?_eq_none_iff.1 hnone)
    obtain ⟨w, hw, hdoc⟩ := hx.last k hk
    obtain ⟨hi, -⟩ := List.getElem?_eq_some_iff.1 hw
    have hr : rs[k]? = some rs[k] := List.getElem?_eq_getElem (hlen ▸ hi)
    obtain ⟨status, hok, htold⟩ := told k _ hr
    exact ⟨k, w, .ok status, hk, hw, hok ▸ hr, htold.writes_of_lastWriter? hk, hdoc⟩
  · intro hnone
    rw [← hcount] at hnone
    exact hx.untouched (lastWriter?_eq_none_iff.2 hnone)
  · rintro i (hi | hi)
    · exact (haccount hi).replaced (.inl rfl)
    · exact (haccount hi).replaced (.inr rfl)
  · intro i hi
    obtain ⟨exchange, e, he, hwrote⟩ := (haccount hi).overtaken rfl
    refine ⟨exchange, e, he, hwrote, ?_, hx.callers e (exchange.mem_of_mem_between he) hwrote⟩
    exact exchange.alone e (List.mem_append_left _ (List.mem_append_right _ he))

/-- Nothing is lost and nothing is overwritten unseen where tasks contend for one document: each
returns, and their answers account for all that happened to it. -/
theorem rivals_accounted (reach : Reachable s) (hq : s.Quiet) (hex : s.databaseExists db = true)
    (hid : id ≠ securityId) (plain : ∀ body, some body ∈ ws → deletes body = false)
    (elsewhere : ∀ t ∈ others, ∃ n, t.Asks (Elsewhere db id) n) (schedule : List Nat) :
    let pool := (rivals db id ws others s).run serve schedule
    ((∀ i < ws.length, 2 ≤ schedule.count i) → (answers? ws pool).isSome) ∧
    ∀ rs, answers? ws pool = some rs → rs.length = ws.length ∧
      Accounted db id ws s pool.state ((rivals db id ws others s).history serve schedule) rs := by
  intro pool
  refine ⟨answers?_of_two_turns, ?_⟩
  intro rs hrs
  have hx : Ready db (s, []) := ⟨hq, hex⟩
  have hlen := length_of_answers? hrs
  have htraced := traced_rivals reach hx hid plain elsewhere schedule
  refine ⟨hlen, accounted_of_told reach htraced hlen ?_⟩
  intro i r hr
  obtain ⟨hi, -⟩ := List.getElem?_eq_some_iff.1 hr
  exact told_rivals reach hx hid plain elsewhere (List.getElem?_eq_getElem (hlen ▸ hi))
    (getElem?_of_answers? hrs hr)

/-- A pass over other documents leaves a document alone. -/
theorem elsewhere_of_passCall {steps : List Step} (hsteps : ∀ step ∈ steps, step.1 ≠ id)
    {c : StoreCall} (hc : PassCall db steps c) : Elsewhere db id c := by
  cases c with
  | create db' => exact hc.elim
  | destroy db' => exact hc.elim
  | get db' id' => trivial
  | insert db' id' body rev =>
    obtain ⟨-, step, hstep, rfl, -⟩ := hc
    exact .inr (hsteps step hstep)

end Contention

def occupied : MemoryStore :=
  (serve (.insert "db" "doc" (.object [("text", .string "old")]) none)
    (serve (.create "db") .empty).2).2

/-- Two tasks install bodies and one retires the document, while a fourth is about another one. The
retirement comes too late. -/
theorem rivals_accounted_occupied :
    let ws := [some [("text", .string "new")], none, some [("text", .string "newer")]]
    let others := [performStep "db" ("other", some [])]
    let schedule := [0, 1, 3, 0, 2, 1, 3, 2]
    Reachable occupied ∧ occupied.Quiet ∧ occupied.databaseExists "db" = true ∧
      "doc" ≠ securityId ∧ (∀ body, some body ∈ ws → deletes body = false) ∧
      (∀ t ∈ others, ∃ n, t.Asks (Elsewhere "db" "doc") n) ∧
      answers? ws ((rivals "db" "doc" ws others occupied).run serve schedule) =
        some [.ok .updated, .ok .converged, .ok .updated] ∧
      Accounted "db" "doc" ws occupied
        ((rivals "db" "doc" ws others occupied).run serve schedule).state
        ((rivals "db" "doc" ws others occupied).history serve schedule)
        [.ok .updated, .ok .converged, .ok .updated] := by
  intro ws others schedule
  have reach : Reachable occupied := .call _ (.call _ .empty)
  have hq : occupied.Quiet := ⟨rfl, rfl⟩
  have hex : occupied.databaseExists "db" = true := rfl
  have hid : "doc" ≠ securityId := by decide
  have plain : ∀ body, some body ∈ ws → deletes body = false := by
    intro body hbody
    simp only [ws, List.mem_cons, Option.some.injEq, reduceCtorEq, false_or, List.not_mem_nil,
      or_false] at hbody
    rcases hbody with rfl | rfl <;> rfl
  have elsewhere : ∀ t ∈ others, ∃ n, t.Asks (Elsewhere "db" "doc") n := by
    intro t ht
    rw [List.mem_singleton.1 ht]
    refine ⟨2, (asks_performStep (List.mem_singleton_self _)).mono (fun c hc => ?_) (Nat.le_refl 2)⟩
    exact elsewhere_of_passCall (by decide) hc
  have hrs : answers? ws ((rivals "db" "doc" ws others occupied).run serve schedule) =
      some [.ok .updated, .ok .converged, .ok .updated] := by decide +kernel
  exact ⟨reach, hq, hex, hid, plain, elsewhere, hrs,
    ((rivals_accounted reach hq hex hid plain elsewhere schedule).2 _ hrs).2⟩

end Permits
