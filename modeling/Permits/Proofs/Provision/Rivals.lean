import Permits.Proofs.Provision.Settling
import Permits.Proofs.Store.Replay
import Permits.Proofs.Store.Revisions

namespace Permits

open MemoryStore

def Status.writes : Status → Bool
  | .created | .updated | .removed => true
  | .converged | .absent | .failed | .skipped => false

/-- The calls of tasks that install or retire a document, and of tasks that leave it alone. -/
def RivalCall (db id : String) (ws : List (Option Members)) (i : Nat) : StoreCall → Prop :=
  match ws[i]? with
  | some w => PassCall db [(id, w)]
  | none => Elsewhere db id

theorem rivalCall_of_passCall {db id : String} {ws : List (Option Members)} {i : Nat}
    {w : Option Members} (hw : ws[i]? = some w) {c : StoreCall} (hc : PassCall db [(id, w)] c) :
    RivalCall db id ws i c := by
  simpa only [RivalCall, hw] using hc

/-- What holds of a document and its history while tasks contend for it. -/
structure Traced (db id : String) (ws : List (Option Members)) (s : MemoryStore) (x : Moment) :
    Prop where
  ready : Ready db x
  replayed : x.1 = serve.replay s x.2
  versioned : ∀ doc, x.1.stored db id = some doc →
    doc.rev = revision doc.generation doc.body doc.deleted
  counted : x.1.generation db id = s.generation db id + x.2.countP (Event.wrote db id)
  callers : ∀ e ∈ x.2, e.wrote db id = true → e.caller < ws.length
  untouched : lastWriter? db id x.2 = none → x.1.stored db id = s.stored db id
  last : ∀ k, lastWriter? db id x.2 = some k →
    ∃ w, ws[k]? = some w ∧ x.1.document db id = w.map content

/-- The bodies that are installed ask for no deletion. -/
def Plain (ws : List (Option Members)) : Prop := ∀ body, some body ∈ ws → deletes body = false

section Traced

variable {db id : String} {ws : List (Option Members)} {s u : MemoryStore} {x y z : Moment}
  {i : Nat} {e : Event}

theorem traced_start (reach : Reachable s) (hx : Ready db (s, [])) :
    Traced db id ws s (s, []) :=
  ⟨hx, rfl, fun _ h => rev_eq_of_reachable reach h, rfl, nofun, fun _ => rfl, nofun⟩

theorem Traced.aside (h : Traced db id ws s x) (hid : id ≠ securityId)
    (hu : u = (serve e.call x.1).2) (spared : Spared db id x.1 u) (he : e.wrote db id = false) :
    Traced db id ws s (u, x.2 ++ [e]) := by
  refine ⟨⟨spared.quiet, spared.exist⟩, ?_, ?_, ?_, ?_, ?_, ?_⟩
  · rw [Service.replay_append_singleton, ← h.replayed]
    exact hu
  · rw [spared.stored]
    exact h.versioned
  · rw [generation, spared.stored, List.countP_append, List.countP_singleton, he]
    exact h.counted
  · intro e' he' hwrote
    rcases List.mem_append.1 he' with he' | he'
    · exact h.callers e' he' hwrote
    · rw [List.mem_singleton.1 he', he] at hwrote
      cases hwrote
  · rw [lastWriter?_append_other he, spared.stored]
    exact h.untouched
  · rw [lastWriter?_append_other he, document_of_ne hid, spared.stored, ← document_of_ne hid]
    exact h.last

theorem document_written_rival (hex : s.databaseExists db = true) (hid : id ≠ securityId)
    (plain : Plain ws) {w : Option Members} (hw : w ∈ ws) :
    (s.written db id (stepBody (id, w))).document db id = w.map content := by
  rw [document_written_self hex hid]
  cases w with
  | none => rfl
  | some body =>
    rw [stepBody, plain body hw]
    rfl

theorem Traced.wrote (h : Traced db id ws s x) (hid : id ≠ securityId) (plain : Plain ws)
    {w : Option Members} (hw : ws[e.caller]? = some w) (he : e.wrote db id = true)
    (hserve : (serve e.call x.1).2 = x.1.written db id (stepBody (id, w))) :
    Traced db id ws s (x.1.written db id (stepBody (id, w)), x.2 ++ [e]) := by
  have hstored := stored_written_self h.ready.exist hid (stepBody (id, w))
  have hlast := lastWriter?_append_wrote (h := x.2) he
  refine ⟨⟨quiet_written h.ready.quiet .., ?_⟩, ?_, ?_, ?_, ?_, ?_, ?_⟩
  · rw [databaseExists_written]
    exact h.ready.exist
  · rw [Service.replay_append_singleton, ← h.replayed]
    exact hserve.symm
  · intro doc hdoc
    rw [hstored] at hdoc
    cases hdoc
    rfl
  · have hcounted := h.counted
    rw [generation] at hcounted ⊢
    rw [hstored, List.countP_append, List.countP_singleton, he, ← Nat.add_assoc, ← hcounted]
    rfl
  · intro e' he' hwrote
    rcases List.mem_append.1 he' with he' | he'
    · exact h.callers e' he' hwrote
    · rw [List.mem_singleton.1 he']
      exact (List.getElem?_eq_some_iff.1 hw).1
  · intro hnone
    rw [hlast] at hnone
    cases hnone
  · intro k hk
    rw [hlast] at hk
    cases hk
    exact ⟨w, hw, document_written_rival h.ready.exist hid plain (List.mem_of_getElem? hw)⟩

/-- What others may do to the document: nothing, or a write that the history tells of. -/
structure Progress (db id : String) (ws : List (Option Members)) (s : MemoryStore) (x : Moment)
    (h : List Event) (y : Moment) : Prop where
  history : y.2 = x.2 ++ h
  traced : Traced db id ws s y
  same : h.countP (Event.wrote db id) = 0 → y.1.stored db id = x.1.stored db id

theorem Traced.call (h : Traced db id ws s x) (hid : id ≠ securityId) (plain : Plain ws)
    {c : StoreCall} (hc : RivalCall db id ws i c) :
    Progress db id ws s x [⟨i, c, (serve c x.1).1⟩] (serve.recording i c x).2 := by
  have hspared (spared : Spared db id x.1 (serve c x.1).2)
      (hwrote : Event.wrote db id ⟨i, c, (serve c x.1).1⟩ = false) :
      Progress db id ws s x [⟨i, c, (serve c x.1).1⟩] (serve.recording i c x).2 :=
    ⟨rfl, h.aside hid rfl spared hwrote, fun _ => spared.stored⟩
  have hrefl : Spared db id x.1 x.1 := .refl h.ready.quiet h.ready.exist
  -- tasks beyond the bodies are about something else
  cases hw : ws[i]? with
  | none =>
    simp only [RivalCall, hw] at hc
    exact hspared (spared_of_elsewhere h.ready.quiet h.ready.exist hc) (wrote_of_elsewhere hc i _)
  | some w =>
    simp only [RivalCall, hw] at hc
    cases c with
    | create db' => exact hc.elim
    | destroy db' => exact hc.elim
    | get db' id' =>
      apply hspared _ rfl
      rw [serve_get_state h.ready.quiet]
      exact hrefl
    | insert db' id' body rev =>
      obtain ⟨rfl, step, hstep, rfl, rfl⟩ := hc
      rw [List.mem_singleton] at hstep
      subst hstep
      cases hacc : x.1.accepts db' id rev (deletes (stepBody (id, w))) with
      | false =>
        have hserve := serve_insert_of_not_accepts h.ready.quiet h.ready.exist hacc
        apply hspared
        · rw [hserve]
          exact hrefl
        · rw [hserve]
          rfl
      | true =>
        have hserve := serve_insert_of_accepts h.ready.quiet hacc
        simp only [Service.recording, hserve]
        refine ⟨rfl, h.wrote hid plain hw (by simp [Event.wrote]) ?_, ?_⟩
        · rw [hserve]
        · intro hnone
          simp [Event.wrote] at hnone

theorem Progress.refl (h : Traced db id ws s x) : Progress db id ws s x [] x :=
  ⟨(List.append_nil _).symm, h, fun _ => rfl⟩

theorem Progress.trans {h h' : List Event} (hxy : Progress db id ws s x h y)
    (hyz : Progress db id ws s y h' z) : Progress db id ws s x (h ++ h') z := by
  refine ⟨?_, hyz.traced, ?_⟩
  · rw [hyz.history, hxy.history, List.append_assoc]
  · intro hnone
    rw [List.countP_append, Nat.add_eq_zero_iff] at hnone
    exact (hyz.same hnone.2).trans (hxy.same hnone.1)

/-- The moves that a task allows for. The others make their calls in their own names. -/
def Rivalry (db id : String) (ws : List (Option Members)) (s : MemoryStore) (i : Nat)
    (x y : Moment) : Prop :=
  Traced db id ws s x → ∃ h, (∀ e ∈ h, e.caller ≠ i) ∧ Progress db id ws s x h y

theorem rivalry_refl (i : Nat) (x : Moment) : Rivalry db id ws s i x x :=
  fun h => ⟨[], nofun, .refl h⟩

theorem rivalry_trans (i : Nat) (x y z : Moment) (hxy : Rivalry db id ws s i x y)
    (hyz : Rivalry db id ws s i y z) : Rivalry db id ws s i x z := by
  intro hx
  obtain ⟨h, halone, hxy⟩ := hxy hx
  obtain ⟨h', halone', hyz⟩ := hyz hxy.traced
  exact ⟨h ++ h', List.forall_mem_append.2 ⟨halone, halone'⟩, hxy.trans hyz⟩

theorem rivalry_of_call (hid : id ≠ securityId) (plain : Plain ws) {j : Nat} (hij : i ≠ j)
    {c : StoreCall} (hc : RivalCall db id ws i c) :
    Rivalry db id ws s j x (serve.recording i c x).2 :=
  fun h => ⟨_, List.forall_mem_singleton.2 hij, h.call hid plain hc⟩

end Traced

/-- The two calls by which a task reads and writes a document, where they stand in a history. -/
structure Exchange (db id : String) (i : Nat) (h : List Event) where
  before : List Event
  read : Except StoreError Document
  between : List Event
  body : Json
  rev : Option String
  answer : Except StoreError (Option String)
  after : List Event
  history : h = before ++ ⟨i, .get db id, read⟩ :: between ++
    ⟨i, .insert db id body rev, answer⟩ :: after
  alone : ∀ e ∈ before ++ between ++ after, e.caller ≠ i

namespace Exchange

variable {db id : String} {i : Nat} {h h' : List Event}

def past (x : Exchange db id i h) : List Event := x.before ++ ⟨i, .get db id, x.read⟩ :: x.between

/-- The write was accepted, over the revision that had been read and was still there. -/
structure Replaces (s : MemoryStore) (x : Exchange db id i h) : Prop where
  accepted : ∃ r, x.answer = .ok r
  current : ∃ doc r, x.read = .ok doc ∧ doc.rev = some r ∧ x.rev = some r ∧
    (serve.replay s x.past).revisionOf db id = some r
  unmoved : ∀ e ∈ x.between, e.wrote db id = false

theorem mem_of_mem_between (x : Exchange db id i h) {e : Event} (he : e ∈ x.between) : e ∈ h := by
  rw [x.history]
  exact List.mem_append_left _ (List.mem_append_right _ (List.mem_cons_of_mem _ he))

def extend (x : Exchange db id i h) (others : ∀ e ∈ h', e.caller ≠ i) :
    Exchange db id i (h ++ h') :=
  { x with
    after := x.after ++ h'
    history := by
      have hhistory := congrArg (· ++ h') x.history
      simpa only [List.append_assoc, List.cons_append] using hhistory
    alone := by
      rw [← List.append_assoc]
      exact List.forall_mem_append.2 ⟨x.alone, others⟩ }

end Exchange

/-- What the history tells about a task that has returned. -/
structure Account (db id : String) (s : MemoryStore) (i : Nat) (h : List Event)
    (status : Status) : Prop where
  writes : h.countP (fun e => e.caller = i && e.wrote db id) = status.writes.toNat
  replaced : status = .updated ∨ status = .removed → ∃ x : Exchange db id i h, x.Replaces s
  overtaken : status = .converged → ∃ x : Exchange db id i h, ∃ e ∈ x.between, e.wrote db id = true

section Account

variable {db id : String} {ws : List (Option Members)} {s : MemoryStore} {x y : Moment} {i : Nat}
  {h h' : List Event} {status : Status}

theorem countP_alone (halone : ∀ e ∈ h, e.caller ≠ i) :
    h.countP (fun e => e.caller = i && e.wrote db id) = 0 := by
  rw [List.countP_eq_zero]
  intro e he
  simp [halone e he]

theorem Account.extend (ha : Account db id s i h status) (others : ∀ e ∈ h', e.caller ≠ i) :
    Account db id s i (h ++ h') status := by
  refine ⟨?_, ?_, ?_⟩
  · rw [List.countP_append, ha.writes, countP_alone others, Nat.add_zero]
  · intro hstatus
    obtain ⟨x, hx⟩ := ha.replaced hstatus
    exact ⟨x.extend others, hx.accepted, hx.current, hx.unmoved⟩
  · intro hstatus
    obtain ⟨x, hx⟩ := ha.overtaken hstatus
    exact ⟨x.extend others, hx⟩

/-- Who wrote the document last has written it. -/
theorem Account.writes_of_lastWriter? (ha : Account db id s i h status)
    (hi : lastWriter? db id h = some i) : status.writes = true := by
  obtain ⟨e, he, hwrote, hcaller⟩ := exists_of_lastWriter? hi
  have hpos : 0 < status.writes.toNat := by
    rw [← ha.writes, List.countP_pos_iff]
    exact ⟨e, he, by simp [hcaller, hwrote]⟩
  cases hwrites : status.writes with
  | true => rfl
  | false =>
    rw [hwrites] at hpos
    cases hpos

/-- A task has read the document and is to write over the revision that it was told. -/
structure Poised (db id : String) (ws : List (Option Members)) (s : MemoryStore) (i : Nat)
    (read : Except StoreError Document) (rev : Option String) (deleting : Bool)
    (before between : List Event) (x : Moment) : Prop where
  traced : Traced db id ws s x
  history : x.2 = before ++ ⟨i, .get db id, read⟩ :: between
  alone : ∀ e ∈ before ++ between, e.caller ≠ i
  told : ∀ r, rev = some r → ∃ doc, read = .ok doc ∧ doc.rev = some r
  number : ∀ r, rev = some r →
    revisionNumber r = s.generation db id + before.countP (Event.wrote db id)
  fresh : between.countP (Event.wrote db id) = 0 → x.1.accepts db id rev deleting = true

variable {read : Except StoreError Document} {rev : Option String} {deleting : Bool}
  {before between : List Event}

theorem Poised.others (hp : Poised db id ws s i read rev deleting before between x)
    (hxy : Rivalry db id ws s i x y) :
    ∃ more, Poised db id ws s i read rev deleting before (between ++ more) y := by
  obtain ⟨more, halone, hmore⟩ := hxy hp.traced
  refine ⟨more, hmore.traced, ?_, ?_, hp.told, hp.number, ?_⟩
  · rw [hmore.history, hp.history, List.append_assoc, List.cons_append]
  · rw [← List.append_assoc]
    exact List.forall_mem_append.2 ⟨hp.alone, halone⟩
  · intro hnone
    rw [List.countP_append, Nat.add_eq_zero_iff] at hnone
    rw [accepts_congr hmore.traced.ready.exist hp.traced.ready.exist (hmore.same hnone.2)]
    exact hp.fresh hnone.1

/-- Revisions do not come again: a write that is accepted over the revision that was read replaces
what was read. -/
theorem Poised.unmoved {r : String} (hid : id ≠ securityId)
    (hp : Poised db id ws s i read (some r) deleting before between x)
    (hacc : x.1.accepts db id (some r) deleting = true) :
    x.1.revisionOf db id = some r ∧ ∀ e ∈ between, e.wrote db id = false := by
  obtain ⟨doc, hdoc, rfl⟩ := stored_of_accepts hid hacc
  refine ⟨by rw [revisionOf_eq, hdoc]; rfl, ?_⟩
  -- the number of a revision tells how many writes led to it, so none came after the reading
  have hnumber := hp.number _ rfl
  have hcounted := hp.traced.counted
  rw [hp.traced.versioned doc hdoc, revisionNumber_revision] at hnumber
  rw [hp.history, List.countP_append, List.countP_cons, generation, hdoc] at hcounted
  have hnone : between.countP (Event.wrote db id) = 0 := by
    simp [Event.wrote] at hcounted
    omega
  simpa using hnone

def Poised.exchange (hp : Poised db id ws s i read rev deleting before between x) (body : Json)
    (answer : Except StoreError (Option String)) :
    Exchange db id i (x.2 ++ [⟨i, .insert db id body rev, answer⟩]) where
  before := before
  read := read
  between := between
  body := body
  rev := rev
  answer := answer
  after := []
  history := by rw [hp.history]
  alone := by
    rw [List.append_nil]
    exact hp.alone

theorem Poised.countP_own (hp : Poised db id ws s i read rev deleting before between x)
    (body : Json) (answer : Except StoreError (Option String)) :
    (x.2 ++ [(⟨i, .insert db id body rev, answer⟩ : Event)]).countP
      (fun e => e.caller = i && e.wrote db id) = answer.toBool.toNat := by
  obtain ⟨hbefore, hbetween⟩ := List.forall_mem_append.1 hp.alone
  rw [hp.history, List.countP_append, List.countP_append, List.countP_cons,
    countP_alone hbefore, countP_alone hbetween, List.countP_singleton]
  cases answer <;> simp [Event.wrote, Except.toBool]

theorem Poised.account_written (hid : id ≠ securityId)
    (hp : Poised db id ws s i read rev deleting before between x)
    (hacc : x.1.accepts db id rev deleting = true) (body : Json) (r : Option String)
    (hwrites : status.writes = true)
    (hover : status = .updated ∨ status = .removed → rev.isSome) :
    Account db id s i (x.2 ++ [⟨i, .insert db id body rev, .ok r⟩]) status := by
  refine ⟨?_, ?_, ?_⟩
  · rw [hp.countP_own, hwrites]
    rfl
  · intro hstatus
    obtain ⟨r, rfl⟩ := Option.isSome_iff_exists.1 (hover hstatus)
    obtain ⟨doc, rfl, hdoc⟩ := hp.told r rfl
    obtain ⟨hcurrent, hunmoved⟩ := hp.unmoved hid hacc
    rw [hp.traced.replayed, hp.history] at hcurrent
    exact ⟨hp.exchange body (.ok _), ⟨_, rfl⟩, ⟨doc, r, rfl, hdoc, rfl, hcurrent⟩, hunmoved⟩
  · rintro rfl
    cases hwrites

theorem Poised.account_stale (hp : Poised db id ws s i read rev deleting before between x)
    (hacc : x.1.accepts db id rev deleting = false) (body : Json) :
    Account db id s i (x.2 ++ [⟨i, .insert db id body rev, .error stale⟩]) .converged := by
  refine ⟨hp.countP_own body _, ?_, ?_⟩
  · rintro (h | h) <;> cases h
  · intro _
    -- had nobody written since the reading, the write would have been accepted
    have hmoved : 0 < between.countP (Event.wrote db id) := by
      refine Nat.pos_of_ne_zero fun hnone => ?_
      rw [hp.fresh hnone] at hacc
      cases hacc
    exact ⟨hp.exchange body _, List.countP_pos_iff.1 hmoved⟩

theorem account_absent (halone : ∀ e ∈ h, e.caller ≠ i) (read : Except StoreError Document) :
    Account db id s i (h ++ [⟨i, .get db id, read⟩]) .absent := by
  refine ⟨?_, ?_, nofun⟩
  · rw [List.countP_append, countP_alone halone, List.countP_singleton]
    simp [Event.wrote, Status.writes]
  · rintro (h | h) <;> cases h

end Account

section Safe

variable {db id : String} {ws : List (Option Members)} {s : MemoryStore} {x y : Moment} {i : Nat}
  {read : Except StoreError Document} {rev : Option String} {before between : List Event}

/-- What a task that installs or retires the document ends with. -/
def Told (db id : String) (s : MemoryStore) (i : Nat) (r : Except StoreError Status)
    (x : Moment) : Prop :=
  ∃ status, r = .ok status ∧ Account db id s i x.2 status

theorem Told.rivalry {r : Except StoreError Status} (hr : Told db id s i r x)
    (hx : Traced db id ws s x) (hxy : Rivalry db id ws s i x y) : Told db id s i r y := by
  obtain ⟨status, rfl, haccount⟩ := hr
  obtain ⟨h, halone, hprogress⟩ := hxy hx
  exact ⟨status, rfl, hprogress.history ▸ haccount.extend halone⟩

/-- What a step reports of a write, and that only a revision makes it an update or a removal. -/
theorem conclude_ok {w : Option Members} (hretires : w = none → rev.isSome) (r : Option String) :
    ∃ status, Step.conclude (id, w) rev (.ok r) = .ok status ∧ status.writes = true ∧
      (status = .updated ∨ status = .removed → rev.isSome) := by
  cases w with
  | none => exact ⟨.removed, rfl, rfl, fun _ => hretires rfl⟩
  | some body =>
    cases rev with
    | none => exact ⟨.created, rfl, rfl, fun h => by rcases h with h | h <;> cases h⟩
    | some rev => exact ⟨.updated, rfl, rfl, fun _ => rfl⟩

/-- A task that is about to write gives a true account of what came of it. -/
theorem safe_insert (hid : id ≠ securityId) (plain : Plain ws) {w : Option Members}
    (hw : ws[i]? = some w) (hretires : w = none → rev.isSome)
    (hp : Poised db id ws s i read rev (deletes (stepBody (id, w))) before between x) :
    (Task.call (.insert db id (.object (stepBody (id, w))) rev) fun answer =>
      .done (Step.conclude (id, w) rev answer)).Safe (serve.recording i) (Rivalry db id ws s i)
        (Told db id s i) x := by
  intro y hxy
  obtain ⟨more, hy⟩ := hp.others hxy
  have hcall : PassCall db [(id, w)] (.insert db id (.object (stepBody (id, w))) rev) :=
    ⟨rfl, _, List.mem_singleton_self _, rfl, rfl⟩
  have htraced := (hy.traced.call hid plain (rivalCall_of_passCall hw hcall)).traced
  cases hacc : y.1.accepts db id rev (deletes (stepBody (id, w))) with
  | true =>
    simp only [Service.recording, serve_insert_of_accepts hy.traced.ready.quiet hacc] at htraced ⊢
    intro z hz
    obtain ⟨status, hstatus, hwrites, hover⟩ := conclude_ok hretires _
    exact Told.rivalry ⟨status, hstatus, hy.account_written hid hacc _ _ hwrites hover⟩ htraced hz
  | false =>
    simp only [Service.recording,
      serve_insert_of_not_accepts hy.traced.ready.quiet hy.traced.ready.exist hacc] at htraced ⊢
    intro z hz
    exact Told.rivalry ⟨.converged, rfl, hy.account_stale hacc _⟩ htraced hz

theorem Traced.others (hx : Traced db id ws s x) (halone : ∀ e ∈ x.2, e.caller ≠ i)
    (hxy : Rivalry db id ws s i x y) : Traced db id ws s y ∧ ∀ e ∈ y.2, e.caller ≠ i := by
  obtain ⟨h, hothers, hprogress⟩ := hxy hx
  refine ⟨hprogress.traced, ?_⟩
  rw [hprogress.history]
  exact List.forall_mem_append.2 ⟨halone, hothers⟩

theorem Traced.number_currentRev (hx : Traced db id ws s x) (hid : id ≠ securityId) {r : String}
    (hr : x.1.currentRev db id = some r) :
    revisionNumber r = s.generation db id + x.2.countP (Event.wrote db id) := by
  have haccepts : x.1.accepts db id (x.1.currentRev db id) false = true :=
    accepts_currentRev hx.ready.exist
  rw [hr] at haccepts
  obtain ⟨doc, hdoc, rfl⟩ := stored_of_accepts hid haccepts
  rw [hx.versioned doc hdoc, revisionNumber_revision, ← hx.counted, generation, hdoc]
  rfl

theorem Traced.poised (hx : Traced db id ws s x) (hid : id ≠ securityId) (plain : Plain ws)
    {w : Option Members} (hw : ws[i]? = some w) (halone : ∀ e ∈ x.2, e.caller ≠ i)
    {deleting : Bool} (hacc : x.1.accepts db id (x.1.currentRev db id) deleting = true) :
    Poised db id ws s i (serve (.get db id) x.1).1 (x.1.currentRev db id) deleting x.2 []
      (x.1, x.2 ++ [⟨i, .get db id, (serve (.get db id) x.1).1⟩]) := by
  have hcall : PassCall db [(id, w)] (.get db id) :=
    ⟨rfl, _, List.mem_singleton_self _, rfl⟩
  have htraced := (hx.call hid plain (rivalCall_of_passCall hw hcall)).traced
  simp only [Service.recording, serve_get_state hx.ready.quiet] at htraced
  refine ⟨htraced, rfl, ?_, ?_, fun r hr => hx.number_currentRev hid hr, fun _ => hacc⟩
  · rw [List.append_nil]
    exact halone
  · intro r hr
    have hlive := isSome_currentRev x.1 db id
    simp only [hr, Option.isSome_some, true_eq_decide_iff] at hlive
    obtain ⟨body, hb⟩ := Option.isSome_iff_exists.1 hlive.2
    exact ⟨_, by rw [serve_get_live hx.ready.quiet hb], hr⟩

/-- A task that installs or retires the document gives a true account of what came of it, whatever
others do meanwhile. -/
theorem safe_rival (hid : id ≠ securityId) (plain : Plain ws) {w : Option Members}
    (hw : ws[i]? = some w) (hx : Traced db id ws s x) (halone : ∀ e ∈ x.2, e.caller ≠ i) :
    (performStep db (id, w)).Safe (serve.recording i) (Rivalry db id ws s i) (Told db id s i)
      x := by
  have hsound : Step.Sound (id, w) :=
    ⟨fun _ body hb => plain body (hb ▸ List.mem_of_getElem? hw), fun _ => hid⟩
  rw [performStep_eq]
  intro y hxy
  obtain ⟨hy, halone⟩ := hx.others halone hxy
  have hjudge := hsound.judge_eq hy.ready.quiet db
  cases hwrites : Step.writes db y.1 (id, w) with
  | true =>
    have hpoised := hy.poised hid plain hw halone (hsound.accepts hy.ready.exist hwrites)
    simp only [hwrites, if_true] at hjudge
    simp only [Service.recording, hjudge, serve_get_state hy.ready.quiet]
    refine safe_insert hid plain hw ?_ hpoised
    intro hnone
    rw [isSome_currentRev]
    simpa [Step.writes, hnone, hid] using hwrites
  | false =>
    have hcall : PassCall db [(id, w)] (.get db id) :=
      ⟨rfl, _, List.mem_singleton_self _, rfl⟩
    have htraced := (hy.call hid plain (rivalCall_of_passCall hw hcall)).traced
    simp only [hwrites] at hjudge
    simp only [Service.recording, hjudge, serve_get_state hy.ready.quiet] at htraced ⊢
    intro z hz
    exact Told.rivalry ⟨.absent, rfl, account_absent halone _⟩ htraced hz

end Safe

end Permits
