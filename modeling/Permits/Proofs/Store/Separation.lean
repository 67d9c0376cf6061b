import Permits.Proofs.Store.Interference
import Permits.Proofs.Store.Reachable

namespace Permits

def StoreCall.database : StoreCall → String
  | .create db => db
  | .destroy db => db
  | .get db _ => db
  | .insert db _ _ _ => db

/-- A call with its answer. -/
abbrev Answered := (c : StoreCall) × c.Answer

namespace Service

variable {σ : Type}

/-- Calls made one after the other, with their answers. -/
def answers (serve : Service σ) : List StoreCall → σ → List Answered
  | [], _ => []
  | c :: rest, s => ⟨c, (serve c s).1⟩ :: serve.answers rest (serve c s).2

/-- The state after calls made one after the other. -/
def finish (serve : Service σ) (cs : List StoreCall) (s : σ) : σ :=
  cs.foldl (fun s c => (serve c s).2) s

end Service

/-- The third list is made of the other two, each in its order. -/
inductive Interleaved {α : Type} : List α → List α → List α → Prop where
  | nil : Interleaved [] [] []
  | left (x : α) {xs ys zs : List α} (h : Interleaved xs ys zs) :
      Interleaved (x :: xs) ys (x :: zs)
  | right (y : α) {xs ys zs : List α} (h : Interleaved xs ys zs) :
      Interleaved xs (y :: ys) (y :: zs)

theorem Interleaved.filter_left {α : Type} {p : α → Bool} {xs ys zs : List α}
    (h : Interleaved xs ys zs) (hx : ∀ x ∈ xs, p x = true) (hy : ∀ y ∈ ys, p y = false) :
    zs.filter p = xs := by
  induction h with
  | nil => rfl
  | left x _ ih =>
    obtain ⟨hhead, hrest⟩ := List.forall_mem_cons.1 hx
    rw [List.filter_cons_of_pos hhead, ih hrest hy]
  | right y _ ih =>
    obtain ⟨hhead, hrest⟩ := List.forall_mem_cons.1 hy
    have hnot : ¬ p y = true := by simp [hhead]
    rw [List.filter_cons_of_neg hnot, ih hx hrest]

theorem Interleaved.symm {α : Type} {xs ys zs : List α} (h : Interleaved xs ys zs) :
    Interleaved ys xs zs := by
  induction h with
  | nil => exact .nil
  | left x _ ih => exact .right x ih
  | right y _ ih => exact .left y ih

namespace MemoryStore

/-- The competing writes that wait for documents of a database. -/
def rivals (s : MemoryStore) (db : String) : List ((String × String) × Json) :=
  s.races.filter (·.1.1 = db)

/-- Two stores without waiting failures that a database does not tell apart. -/
structure Alike (db : String) (s t : MemoryStore) : Prop where
  left : s.faults = []
  right : t.faults = []
  database : s.databases.find? db = t.databases.find? db
  rivals : s.rivals db = t.rivals db

variable {s t u : MemoryStore} {db id : String}

theorem Alike.refl (h : s.faults = []) (db : String) : Alike db s s := ⟨h, h, rfl, rfl⟩

theorem Alike.symm (h : Alike db s t) : Alike db t s :=
  ⟨h.right, h.left, h.database.symm, h.rivals.symm⟩

theorem Alike.trans (h : Alike db s t) (h' : Alike db t u) : Alike db s u :=
  ⟨h.left, h'.right, h.database.trans h'.database, h.rivals.trans h'.rivals⟩

theorem faulty_eq {α : Type} (h : s.faults = []) (op : Operation)
    (call : MemoryStore → Except StoreError α × MemoryStore) : faulty op s call = call s := by
  rw [faulty, h]
  rfl

section Own

theorem Alike.find?_races (h : Alike db s t) (id : String) :
    s.races.find? (·.1 = (db, id)) = t.races.find? (·.1 = (db, id)) := by
  have hown (v : MemoryStore) :
      (v.rivals db).find? (·.1 = (db, id)) = v.races.find? (·.1 = (db, id)) := by
    rw [MemoryStore.rivals, List.find?_filter]
    congr 1
    funext race
    by_cases hrace : race.1 = (db, id) <;> simp [hrace]
  rw [← hown s, ← hown t, h.rivals]

theorem Alike.liveRevision (h : Alike db s t) (id : String) :
    s.liveRevision db id = t.liveRevision db id := by
  rw [MemoryStore.liveRevision, MemoryStore.liveRevision, h.database]

theorem Alike.withoutRivals (h : Alike db s t) (id : String) :
    Alike db { s with races := s.races.filter (·.1 ≠ (db, id)) }
      { t with races := t.races.filter (·.1 ≠ (db, id)) } := by
  have hown (v : MemoryStore) :
      (v.races.filter (·.1 ≠ (db, id))).filter (·.1.1 = db) =
        (v.rivals db).filter (·.1 ≠ (db, id)) := by
    rw [MemoryStore.rivals, List.filter_filter, List.filter_filter]
    congr 1
    funext race
    exact Bool.and_comm ..
  refine ⟨h.left, h.right, h.database, ?_⟩
  simp only [MemoryStore.rivals, hown]
  exact congrArg _ h.rivals

theorem Alike.put (h : Alike db s t) (d : Database) (n m : Nat) :
    Alike db { s with databases := s.databases.put db d, writes := n }
      { t with databases := t.databases.put db d, writes := m } :=
  ⟨h.left, h.right, by simp, h.rivals⟩

theorem Alike.write (h : Alike db s t) (id : String) (body : Members) (rev : Option String) :
    (∃ e, s.write db id body rev = .error e ∧ t.write db id body rev = .error e) ∨
      ∃ r s' t', s.write db id body rev = .ok (r, s') ∧ t.write db id body rev = .ok (r, t') ∧
        Alike db s' t' := by
  unfold MemoryStore.write
  rw [h.database]
  cases t.databases.find? db with
  | none => exact .inl ⟨_, rfl, rfl⟩
  | some d =>
    by_cases hid : id = securityId
    · simp only [hid, if_true]
      exact .inr ⟨_, _, _, rfl, rfl, h.put ..⟩
    · simp only [hid, if_false]
      split
      · exact .inr ⟨_, _, _, rfl, rfl, h.put ..⟩
      · exact .inl ⟨_, rfl, rfl⟩

/-- The same answer, and stores that the database does not tell apart. -/
def Agree {α : Type} (db : String) (x y : α × MemoryStore) : Prop := x.1 = y.1 ∧ Alike db x.2 y.2

theorem Alike.writeOrStay (h : Alike db s t) (id : String) (body : Members)
    (rev : Option String) :
    Agree db (s.writeOrStay db id body rev) (t.writeOrStay db id body rev) := by
  unfold MemoryStore.writeOrStay
  obtain ⟨e, hs, ht⟩ | ⟨r, s', t', hs, ht, h'⟩ := h.write id body rev
  · rw [hs, ht]
    exact ⟨rfl, h⟩
  · rw [hs, ht]
    exact ⟨rfl, h'⟩

theorem Alike.insertRaced (h : Alike db s t) (id : String) (body : Members)
    (rev : Option String) :
    Agree db (s.insertRaced db id body rev) (t.insertRaced db id body rev) := by
  unfold MemoryStore.insertRaced
  rw [h.find?_races id]
  split
  · exact h.writeOrStay id body rev
  · next competing _ =>
    have hlost := h.withoutRivals id
    dsimp only
    split
    · exact ⟨rfl, hlost⟩
    · next rival _ =>
      have hlive := hlost.liveRevision id
      rw [hlive]
      -- the rival writes over the same revision in both stores, so it wins in both or in neither
      obtain ⟨e, hs, ht⟩ | ⟨r, s', t', hs, ht, h'⟩ := hlost.write id rival
        (MemoryStore.liveRevision { t with races := t.races.filter (·.1 ≠ (db, id)) } db id)
      · rw [hs, ht]
        exact ⟨rfl, hlost⟩
      · rw [hs, ht]
        exact h'.writeOrStay id body rev

theorem Alike.serve (h : Alike db s t) {c : StoreCall} (hc : c.database = db) :
    Agree db (MemoryStore.serve c s) (MemoryStore.serve c t) := by
  have hcontains : s.databases.contains db = t.databases.contains db := by
    rw [Keyed.contains, Keyed.contains, h.database]
  cases c with
  | create name =>
    obtain rfl : name = db := hc
    simp only [MemoryStore.serve, faulty_eq h.left, faulty_eq h.right, create, hcontains]
    split
    · exact ⟨rfl, h⟩
    · exact ⟨rfl, h.put ..⟩
  | destroy name =>
    obtain rfl : name = db := hc
    simp only [MemoryStore.serve, faulty_eq h.left, faulty_eq h.right, destroy, hcontains]
    split
    · exact ⟨rfl, h.left, h.right, by simp, h.rivals⟩
    · exact ⟨rfl, h⟩
  | get name id =>
    obtain rfl : name = db := hc
    simp only [MemoryStore.serve, faulty_eq h.left, faulty_eq h.right, get, h.database]
    split <;> exact ⟨rfl, h⟩
  | insert name id body rev =>
    obtain rfl : name = db := hc
    simp only [MemoryStore.serve, insert]
    split
    · exact ⟨rfl, h⟩
    · rw [faulty_eq h.left, faulty_eq h.right]
      exact h.insertRaced id _ rev

end Own

section Other

variable {other : String}

theorem alike_written (hf : s.faults = []) (h : other ≠ db) (id : String) (body : Members) :
    Alike db s (s.written other id body) := by
  have hdatabase := find?_written_of_ne (s := s) (Ne.symm h) id body
  unfold written at hdatabase ⊢
  split
  · exact .refl hf db
  · exact ⟨hf, hf, by simpa [*] using hdatabase.symm, rfl⟩

theorem Alike.attempt_other (h : Alike db s t) (hne : other ≠ db) {id : String} {body : Members}
    {rev : Option String} {answer : Except StoreError (Option String)}
    (hattempt : Attempt other id body rev t answer u) : Alike db s u := by
  cases hattempt with
  | taken _ => exact h.trans (alike_written h.right hne id body)
  | refused _ _ => exact h

theorem alike_unrivalled (hf : s.faults = []) (h : other ≠ db) (id : String) :
    Alike db s (s.unrivalled other id) := by
  refine ⟨hf, hf, rfl, ?_⟩
  rw [MemoryStore.rivals, MemoryStore.rivals, unrivalled, List.filter_filter]
  apply List.filter_congr
  intro race _
  by_cases hrace : race.1.1 = db
  · have hne : race.1 ≠ (other, id) := fun heq => h (by rw [← hrace, heq])
    simp [hrace, hne]
  · simp [hrace]

theorem alike_insertion (hf : s.faults = []) (hne : other ≠ db) {id : String} {body : Members}
    {rev : Option String} {answer : Except StoreError (Option String)}
    (h : Insertion other id body rev s answer t) : Alike db s t := by
  have hlost : Alike db s (s.unrivalled other id) := alike_unrivalled hf hne id
  cases h with
  | faulted failure =>
    obtain ⟨before, after, hfaults, -, -⟩ := failure
    rw [hf] at hfaults
    exact absurd hfaults.symm (by simp)
  | alone _ _ own => exact (Alike.refl hf db).attempt_other hne own
  | spoiled _ _ _ _ => exact hlost
  | @overtaken rival _ _ _ _ _ own =>
    exact (hlost.trans (alike_written hlost.right hne id rival)).attempt_other hne own

theorem alike_serve (hf : s.faults = []) {c : StoreCall} (hc : c.database ≠ db) :
    Alike db s (serve c s).2 := by
  cases c with
  | create name =>
    rw [serve, faulty_eq hf, create]
    split
    · exact .refl hf db
    · exact ⟨hf, hf, (Keyed.find?_put_of_ne _ _ (Ne.symm hc)).symm, rfl⟩
  | destroy name =>
    rw [serve, faulty_eq hf, destroy]
    split
    · exact ⟨hf, hf, (Keyed.find?_erase_of_ne _ (Ne.symm hc)).symm, rfl⟩
    · exact .refl hf db
  | get name id =>
    rw [serve, faulty_eq hf, get]
    split <;> exact .refl hf db
  | insert name id body rev =>
    rcases serve_insert_cases name id body rev s with ⟨e, h⟩ | ⟨ms, rfl⟩
    · rw [h]
      exact .refl hf db
    · exact alike_insertion hf hc (insertion_serve name id ms rev s)

end Other

section Sequences

/-- The calls on a database are answered as if there were no others, by induction on the calls. -/
theorem answers_alike (h : Alike db s t) (cs : List StoreCall) :
    (Service.answers serve cs s).filter (·.1.database = db) =
        Service.answers serve (cs.filter (·.database = db)) t ∧
      Alike db (Service.finish serve cs s)
        (Service.finish serve (cs.filter (·.database = db)) t) := by
  induction cs generalizing s t with
  | nil => exact ⟨rfl, h⟩
  | cons c rest ih =>
    by_cases hc : c.database = db
    · obtain ⟨hanswer, hstore⟩ := h.serve hc
      obtain ⟨hanswers, hfinish⟩ := ih hstore
      simp only [Service.answers, List.filter_cons, hc, decide_true, if_true, hanswers, hanswer]
      exact ⟨trivial, hfinish⟩
    · obtain ⟨hanswers, hfinish⟩ := ih ((alike_serve h.left hc).symm.trans h)
      simp only [Service.answers, List.filter_cons, hc, decide_false, Bool.false_eq_true, if_false]
      exact ⟨hanswers, hfinish⟩

/-- Of two interleaved sequences of calls, on a database and on others, the first goes as it does
without the second. -/
theorem answers_interleaved (hf : s.faults = []) {xs ys zs : List StoreCall}
    (hxs : ∀ c ∈ xs, c.database = db) (hys : ∀ c ∈ ys, c.database ≠ db)
    (hzs : Interleaved xs ys zs) :
    (Service.answers serve zs s).filter (·.1.database = db) = Service.answers serve xs s ∧
      (Service.finish serve zs s).databases.find? db =
        (Service.finish serve xs s).databases.find? db := by
  have hfilter : zs.filter (·.database = db) = xs :=
    hzs.filter_left (fun c hc => decide_eq_true (hxs c hc)) fun c hc => decide_eq_false (hys c hc)
  obtain ⟨hanswers, hfinish⟩ := answers_alike (.refl hf db) zs
  rw [hfilter] at hanswers hfinish
  exact ⟨hanswers, hfinish.database⟩

end Sequences

section Tasks

variable {α : Type}

/-- Others have been at work, and have left the database alone. -/
def Aside (db : String) (x y : MemoryStore × List Event) : Prop :=
  x.1.faults = [] → Alike db x.1 y.1

variable {x y z : MemoryStore × List Event}

theorem Aside.refl (db : String) (x : MemoryStore × List Event) : Aside db x x :=
  fun hx => .refl hx db

theorem Aside.trans (hxy : Aside db x y) (hyz : Aside db y z) : Aside db x z := by
  intro hx
  have hy := hxy hx
  exact hy.trans (hyz hy.right)

theorem aside_of_call {c : StoreCall} (hc : c.database ≠ db) (i : Nat) :
    Aside db x (Service.recording serve i c x).2 := fun hx => alike_serve hx hc

/-- A task ends with its answer, and leaves its database, as it does in another store. -/
def EndsAs (db : String) (task : Task α) (t : MemoryStore) (a : α)
    (x : MemoryStore × List Event) : Prop :=
  a = (task.run serve t).1 ∧ Alike db x.1 (task.run serve t).2.1

/-- Whatever goes on elsewhere, a task on a database ends as in a store that the database does not
tell apart. -/
theorem safe_alike (h : Alike db s t) {task : Task α} {n : Nat}
    (asks : task.Asks (·.database = db) n) (i : Nat) (history : List Event) :
    task.Safe (Service.recording serve i) (Aside db) (EndsAs db task t) (s, history) := by
  induction task generalizing s t n history with
  | done a => exact fun x hx => ⟨rfl, (hx h.left).symm.trans h⟩
  | count k rest ih => exact ih h asks history
  | call c next ih =>
    intro x hx
    obtain ⟨-, hc, hnext⟩ := asks
    obtain ⟨hanswer, hstore⟩ := ((hx h.left).symm.trans h).serve hc
    have hends : EndsAs db (.call c next) t = EndsAs db (next (serve c x.1).1) (serve c t).2 := by
      unfold EndsAs
      rw [hanswer]
      rfl
    rw [hends]
    exact ih (serve c x.1).1 hstore (hnext _) _

theorem ne_of_nodup_map {β γ : Type} {f : β → γ} {xs : List β} (h : (xs.map f).Nodup) {i j : Nat}
    {v w : β} (hv : xs[i]? = some v) (hw : xs[j]? = some w) (hij : i ≠ j) : f v ≠ f w := by
  intro heq
  have hi : i < (xs.map f).length := by
    rw [List.length_map]
    exact (List.getElem?_eq_some_iff.1 hv).1
  apply hij
  apply (List.getElem?_inj hi h).1
  rw [List.getElem?_map, List.getElem?_map, hv, hw, Option.map_some, Option.map_some, heq]

/-- However tasks on different databases are interleaved, each ends as it does alone. -/
theorem results_apart {β : Type} (hf : s.faults = []) {work : List β} {name : β → String}
    {task : β → Task α} (distinct : (work.map name).Nodup)
    (asks : ∀ w ∈ work, ∃ n, (task w).Asks (·.database = name w) n) {schedule : List Nat}
    {rs : List α} (hrs : ((Pool.start s (work.map task)).run serve schedule).results? = some rs) :
    rs = work.map (fun w => ((task w).run serve s).1) ∧
      ∀ w ∈ work, ((Pool.start s (work.map task)).run serve schedule).state.databases.find?
        (name w) = ((task w).run serve s).2.1.databases.find? (name w) := by
  let p := Pool.start s (work.map task)
  have hrefl (i : Nat) (x : MemoryStore × List Event) :
      ∀ w, work[i]? = some w → Aside (name w) x x := fun w _ => .refl _ x
  have hasks : Pool.Each p.tasks fun i t =>
      ∃ n, t.Asks (fun c => ∃ w, work[i]? = some w ∧ c.database = name w) n := by
    apply Pool.Each.start
    intro i w hw
    obtain ⟨n, hn⟩ := asks w (List.mem_of_getElem? hw)
    exact ⟨n, Task.asks_settle.2 (hn.mono (fun c hc => ⟨w, hw, hc⟩) (Nat.le_refl n))⟩
  have hstart : Pool.Each p.tasks fun i t => t.Safe (Service.recording serve i)
      (fun x y => ∀ w, work[i]? = some w → Aside (name w) x y)
      (fun a x => ∀ w, work[i]? = some w → EndsAs (name w) (task w) s a x) (s, []) := by
    apply Pool.Each.start
    intro i w hw
    obtain ⟨n, hn⟩ := asks w (List.mem_of_getElem? hw)
    simp only [hw, Option.some.injEq, forall_eq']
    exact Task.safe_settle.2 (safe_alike (.refl hf _) hn i [])
  -- a call of another task is one on another database, since no two have the same
  have hsafe := Pool.run_safe hrefl (fun i x y z hxy hyz w hw => (hxy w hw).trans (hyz w hw))
    (fun i j c x hij hc w hw => by
      obtain ⟨v, hv, hc⟩ := hc
      apply aside_of_call
      rw [hc]
      exact ne_of_nodup_map distinct hv hw hij) p [] hasks hstart schedule
  have hlength : rs.length = work.length := by
    rw [Pool.length_of_results? hrs, Pool.length_tasks_run, Pool.length_tasks_start]
  have hends {i : Nat} {w : β} (hw : work[i]? = some w) :
      ∃ a, rs[i]? = some a ∧ EndsAs (name w) (task w) s a
        ((p.run serve schedule).state, [] ++ p.history serve schedule) := by
    have hi : i < rs.length := hlength ▸ (List.getElem?_eq_some_iff.1 hw).1
    have ha := List.getElem?_eq_getElem hi
    exact ⟨_, ha, Pool.post_of_results? hrefl hsafe hrs ha w hw⟩
  constructor
  · apply List.ext_getElem?
    intro i
    rw [List.getElem?_map]
    cases hw : work[i]? with
    | none =>
      rw [List.getElem?_eq_none_iff] at hw
      rw [List.getElem?_eq_none_iff.2 (hlength ▸ hw), Option.map_none]
    | some w =>
      obtain ⟨a, ha, hanswer, -⟩ := hends hw
      rw [ha, hanswer, Option.map_some]
  · intro w hw
    obtain ⟨i, hi⟩ := List.getElem?_of_mem hw
    obtain ⟨-, -, -, hstore⟩ := hends hi
    exact hstore.database

end Tasks

end MemoryStore

end Permits
