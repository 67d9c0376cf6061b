import Mathlib.Data.List.Forall2
import Permits.Proofs.Store.Harmless
import Permits.Proofs.Store.Journal
import Permits.Proofs.Store.Separation

namespace Permits

/-- A failure can be delivered to the call. An insertion of anything but an object is refused before
it comes to that. -/
def StoreCall.exposed : StoreCall → Bool
  | .insert _ _ (.object _) _ => true
  | .insert _ _ _ _ => false
  | _ => true

namespace MemoryStore

def failuresFor (op : Operation) (faults : List (Operation × StoreError)) : List StoreError :=
  (faults.filter (·.1 = op)).map (·.2)

def Move.failures : Move → List (Operation × StoreError)
  | .failNext op e => [(op, e)]
  | _ => []

/-- The failures that wait at first, and behind them those that the moves put in the way. -/
def queued (s : MemoryStore) (moves : List Move) : List (Operation × StoreError) :=
  s.faults ++ moves.flatMap Move.failures

/-- The move with its answer, if it is a call of the kind that meets a failure. -/
def Move.met (op : Operation) : Move → MemoryStore → List Answered
  | .call c, s =>
    if c.operation = op ∧ c.exposed = true ∧ failuresFor op s.faults ≠ [] then
      [⟨c, (serve c s).1⟩]
    else []
  | _, _ => []

def met (op : Operation) : List Move → MemoryStore → List Answered
  | [], _ => []
  | m :: moves, s => m.met op s ++ met op moves (m.apply s)

/-- What came of a call is what comes of it where no failure waits, and those that wait still do. -/
structure Heedless {β : Type} (s : MemoryStore) (result calmed : β × MemoryStore) : Prop where
  answer : result.1 = calmed.1
  state : result.2.calm = calmed.2
  faults : result.2.faults = s.faults

/-- All that the failures that wait can be to a call: the oldest one of its kind is its answer and
is taken out, or it can meet none and goes as if none waited. -/
inductive Dealt (c : StoreCall) (s : MemoryStore) : Prop where
  | failed {e : StoreError} (exposed : c.exposed = true)
      (failure : Delivered c.operation e s (serve c s).2) (answer : (serve c s).1 = c.refused e)
  | spared (safe : c.exposed = true → failuresFor c.operation s.faults = [])
      (alike : Heedless s (serve c s) (serve c s.calm))

/-- Of the failures that were there before, the oldest ones of each kind are the answers to the
calls of that kind, in order, and the others are still there. -/
structure HandedOut (calls : Operation → List Answered)
    (before after : List (Operation × StoreError)) : Prop where
  order : after.Sublist before
  shares : ∀ op, ∃ es, List.Forall₂ (fun x e => x.2 = x.1.refused e) (calls op) es ∧
    failuresFor op before = es ++ failuresFor op after

/-- What has become of the failures of a store along moves that lead to another. -/
structure DeliveredInOrder (s : MemoryStore) (moves : List Move) (t : MemoryStore) : Prop where
  /-- The calls that meet failures of their kind fail with them in the order in which they were
  queued. -/
  answers : ∀ op (k : Nat) (x : Answered), (met op moves s)[k]? = some x →
    ∃ e, (failuresFor op (s.queued moves))[k]? = some e ∧ x.2 = x.1.refused e
  /-- Just those wait that were not delivered yet. -/
  waiting : ∀ op, failuresFor op t.faults =
    (failuresFor op (s.queued moves)).drop (met op moves s).length
  /-- Failures for different kinds of call do not change places either. -/
  order : t.faults.Sublist (s.queued moves)
  next : ∀ c, Dealt c t

variable {s t : MemoryStore} {op other : Operation} {e : StoreError} {db id : String}

section Kinds

theorem failuresFor_append (op : Operation) (xs ys : List (Operation × StoreError)) :
    failuresFor op (xs ++ ys) = failuresFor op xs ++ failuresFor op ys := by
  simp only [failuresFor, List.filter_append, List.map_append]

theorem failuresFor_cons (op : Operation) (f : Operation × StoreError)
    (rest : List (Operation × StoreError)) : failuresFor op (f :: rest) =
      if f.1 = op then f.2 :: failuresFor op rest else failuresFor op rest := by
  by_cases h : f.1 = op <;> simp [failuresFor, h]

theorem failuresFor_eq_nil_iff {faults : List (Operation × StoreError)} :
    failuresFor op faults = [] ↔ ∀ f ∈ faults, f.1 ≠ op := by
  simp [failuresFor]

theorem Delivered.failuresFor_self (h : Delivered op e s t) :
    failuresFor op s.faults = e :: failuresFor op t.faults := by
  obtain ⟨before, after, hfaults, hbefore, rfl⟩ := h
  have hnone : failuresFor op before = [] := failuresFor_eq_nil_iff.2 hbefore
  rw [hfaults, failuresFor_append, failuresFor_append, hnone, failuresFor_cons, if_pos rfl]
  rfl

theorem Delivered.failuresFor_of_ne (h : Delivered op e s t) (hne : op ≠ other) :
    failuresFor other t.faults = failuresFor other s.faults := by
  obtain ⟨before, after, hfaults, -, rfl⟩ := h
  rw [hfaults, failuresFor_append, failuresFor_append, failuresFor_cons, if_neg hne]

theorem Delivered.sublist (h : Delivered op e s t) : t.faults.Sublist s.faults := by
  obtain ⟨before, after, hfaults, -, rfl⟩ := h
  rw [hfaults]
  exact (List.sublist_cons_self _ _).append_left before

end Kinds

section Calls

theorem Calmly.heedless {β : Type} {result calmed : β × MemoryStore} (h : Calmly s result calmed) :
    Heedless s result calmed :=
  ⟨h.answer, h.state, h.faults⟩

theorem calm_written (s : MemoryStore) (db id : String) (ms : Members) :
    (s.written db id ms).calm = s.calm.written db id ms := by
  have hfind : s.calm.databases.find? db = s.databases.find? db := rfl
  unfold written
  rw [hfind]
  cases s.databases.find? db <;> rfl

/-- A competitor that waits is used up, so `Calmly` would say too much, but failures are no concern
of it. -/
theorem heedless_insertRaced (s : MemoryStore) (db id : String) (ms : Members)
    (rev : Option String) :
    Heedless s (s.insertRaced db id ms rev) (s.calm.insertRaced db id ms rev) := by
  have hraces : s.calm.races = s.races := rfl
  cases hrace : s.races.find? (·.1 = (db, id)) with
  | none =>
    rw [insertRaced, hrace, insertRaced, hraces, hrace]
    exact (calmly_writeOrStay s db id ms rev).heedless
  | some race =>
    obtain ⟨key, competing⟩ := race
    have hkey : key = (db, id) := by simpa using List.find?_some hrace
    subst hkey
    cases competing with
    | object rival =>
      have hcalm : s.calm.unrivalled db id = (s.unrivalled db id).calm := rfl
      have hsame : s.calm.accepts db id (s.calm.liveRevision db id) (deletes rival) =
          s.accepts db id (s.liveRevision db id) (deletes rival) := rfl
      have hcalmed := insertRaced_of_waiting (s := s.calm) hrace ms rev
      rw [hsame, hcalm, ← calm_written] at hcalmed
      rw [insertRaced_of_waiting hrace, hcalmed]
      cases s.accepts db id (s.liveRevision db id) (deletes rival) with
      | false => exact ⟨rfl, rfl, rfl⟩
      | true =>
        have hown := calmly_writeOrStay ((s.unrivalled db id).written db id rival) db id ms rev
        have hfaults := hown.faults
        rw [faults_written] at hfaults
        exact ⟨hown.answer, hown.state, hfaults⟩
    | _ =>
      rw [insertRaced, hrace, insertRaced, hraces, hrace]
      exact ⟨rfl, rfl, rfl⟩

theorem faulty_delivered_or_heedless (op : Operation) {α : Type}
    {call : MemoryStore → Except StoreError α × MemoryStore}
    (h : Heedless s (call s) (call s.calm)) :
    (∃ e t, Delivered op e s t ∧ faulty op s call = (.error e, t)) ∨
      failuresFor op s.faults = [] ∧ Heedless s (faulty op s call) (faulty op s.calm call) := by
  have hcalm : faulty op s.calm call = call s.calm := rfl
  refine (faulty_delivered op s call).imp_right fun ⟨hnone, hcall⟩ => ?_
  rw [hcall, hcalm]
  exact ⟨failuresFor_eq_nil_iff.2 hnone, h⟩

theorem serve_delivered_or_heedless {c : StoreCall} (hc : c.exposed = true) (s : MemoryStore) :
    (∃ e t, Delivered c.operation e s t ∧ serve c s = (c.refused e, t)) ∨
      failuresFor c.operation s.faults = [] ∧ Heedless s (serve c s) (serve c s.calm) := by
  cases c with
  | create db => exact faulty_delivered_or_heedless .create (calmly_create s db).heedless
  | destroy db => exact faulty_delivered_or_heedless .destroy (calmly_destroy s db).heedless
  | get db id => exact faulty_delivered_or_heedless .get (calmly_get s db id).heedless
  | insert db id body rev =>
    cases body with
    | object ms => exact faulty_delivered_or_heedless .insert (heedless_insertRaced s db id ms rev)
    | _ => cases hc

/-- What is refused for its form is refused whatever waits. -/
theorem heedless_of_not_exposed {c : StoreCall} (hc : c.exposed = false) (s : MemoryStore) :
    Heedless s (serve c s) (serve c s.calm) := by
  cases c with
  | insert db id body rev =>
    cases body with
    | object ms => cases hc
    | _ => exact ⟨rfl, rfl, rfl⟩
  | _ => cases hc

theorem dealt (c : StoreCall) (s : MemoryStore) : Dealt c s := by
  cases hc : c.exposed with
  | false =>
    refine .spared (fun hexposed => ?_) (heedless_of_not_exposed hc s)
    rw [hc] at hexposed
    cases hexposed
  | true =>
    rcases serve_delivered_or_heedless hc s with ⟨e, t, hfailure, hserve⟩ | ⟨hnone, hcall⟩
    · refine .failed hc ?_ (congrArg Prod.fst hserve)
      rwa [hserve]
    · exact .spared (fun _ => hnone) hcall

end Calls

section Runs

variable {xs ys : Operation → List Answered} {before between after : List (Operation × StoreError)}

theorem HandedOut.trans (h : HandedOut xs before between) (h' : HandedOut ys between after) :
    HandedOut (fun op => xs op ++ ys op) before after := by
  refine ⟨h'.order.trans h.order, fun op => ?_⟩
  obtain ⟨es, hes, hbefore⟩ := h.shares op
  obtain ⟨fs, hfs, hbetween⟩ := h'.shares op
  refine ⟨es ++ fs, List.rel_append hes hfs, ?_⟩
  rw [hbefore, hbetween, List.append_assoc]

/-- What comes to stand behind the failures makes no difference to them. -/
theorem HandedOut.append (h : HandedOut xs before after) (rest : List (Operation × StoreError)) :
    HandedOut xs (before ++ rest) (after ++ rest) := by
  refine ⟨h.order.append_right rest, fun op => ?_⟩
  obtain ⟨es, hes, hbefore⟩ := h.shares op
  refine ⟨es, hes, ?_⟩
  rw [failuresFor_append, failuresFor_append, hbefore, List.append_assoc]

theorem handedOut_nothing (faults : List (Operation × StoreError)) :
    HandedOut (fun _ => []) faults faults :=
  ⟨.refl _, fun _ => ⟨[], .nil, rfl⟩⟩

theorem handedOut_call (c : StoreCall) (s : MemoryStore) :
    HandedOut (fun op => (Move.call c).met op s) s.faults (serve c s).2.faults := by
  cases dealt c s with
  | @failed e exposed failure answer =>
    refine ⟨failure.sublist, fun op => ?_⟩
    have hself := failure.failuresFor_self
    by_cases hop : c.operation = op
    · subst hop
      have hwaits : failuresFor c.operation s.faults ≠ [] := by simp [hself]
      have hmet : (Move.call c).met c.operation s = [⟨c, (serve c s).1⟩] :=
        if_pos ⟨rfl, exposed, hwaits⟩
      rw [hmet]
      exact ⟨[e], .cons answer .nil, hself⟩
    · have hmet : (Move.call c).met op s = [] := if_neg fun h => hop h.1
      rw [hmet]
      exact ⟨[], .nil, (failure.failuresFor_of_ne hop).symm⟩
  | spared safe alike =>
    have hmet : (fun op => (Move.call c).met op s) = fun _ => [] := by
      funext op
      apply if_neg
      rintro ⟨rfl, exposed, hwaits⟩
      exact hwaits (safe exposed)
    rw [hmet, alike.faults]
    exact handedOut_nothing _

theorem handedOut_move (m : Move) (s : MemoryStore) :
    HandedOut (fun op => m.met op s) (s.faults ++ m.failures) (m.apply s).faults := by
  cases m with
  | call c =>
    have hnone : s.faults ++ (Move.call c).failures = s.faults := List.append_nil _
    rw [hnone]
    exact handedOut_call c s
  | failNext op e => exact handedOut_nothing _
  | raceNext db id body =>
    have hnone : s.faults ++ (Move.raceNext db id body).failures = s.faults := List.append_nil _
    rw [hnone]
    exact handedOut_nothing _

theorem handedOut_run (moves : List Move) (s : MemoryStore) :
    HandedOut (fun op => met op moves s) (s.queued moves)
      (moves.foldl (fun s m => m.apply s) s).faults := by
  induction moves generalizing s with
  | nil =>
    have hqueued : s.queued [] = s.faults := List.append_nil _
    rw [hqueued]
    exact handedOut_nothing _
  | cons m moves ih =>
    -- the failures of the later moves stand behind all that the first move can hand out
    have hfirst := (handedOut_move m s).append (moves.flatMap Move.failures)
    have hqueued : s.queued (m :: moves) =
        s.faults ++ m.failures ++ moves.flatMap Move.failures := by
      rw [queued, List.flatMap_cons, List.append_assoc]
    rw [hqueued]
    exact hfirst.trans (ih (m.apply s))

/-- Along every run of calls, with failures and competing writes put in their way at any point, the
calls that come while a failure waits for their kind fail with the oldest one that does. No failure
is lost, delivered twice, or delivered to a call of another kind. -/
theorem failures_delivered_in_order (s : MemoryStore) (moves : List Move) :
    DeliveredInOrder s moves (moves.foldl (fun s m => m.apply s) s) := by
  have hrun := handedOut_run moves s
  constructor
  · intro op k x hx
    obtain ⟨es, hes, hqueued⟩ := hrun.shares op
    obtain ⟨hk, rfl⟩ := List.getElem?_eq_some_iff.1 hx
    have hk' : k < es.length := hes.length_eq ▸ hk
    refine ⟨es[k], ?_, hes.get hk hk'⟩
    rw [hqueued, List.getElem?_append_left hk', List.getElem?_eq_getElem hk']
  · intro op
    obtain ⟨es, hes, hqueued⟩ := hrun.shares op
    rw [hqueued, hes.length_eq, List.drop_left]
  · exact hrun.order
  · intro c
    exact dealt c _

/-- Failures for insertions and for readers in turn, with something that is no object to be inserted,
a competitor, and a failure that nobody is left to meet. -/
def besieged : List Move :=
  [.failNext .insert (.transport "first"), .failNext .get (.transport "lost"),
    .failNext .insert (.conflict "second"), .call (.create "db"),
    .call (.insert "db" "doc" .null none), .call (.insert "db" "doc" (.object []) none),
    .raceNext "db" "doc" (.object []), .failNext .get (.notFound "later"),
    .call (.get "db" "doc"), .call (.insert "db" "doc" (.object []) none)]

theorem failures_delivered_in_order_besieged :
    let t := besieged.foldl (fun s m => m.apply s) empty
    DeliveredInOrder empty besieged t ∧ t.faults = [(.get, .notFound "later")] ∧
      met .insert besieged empty =
        [⟨.insert "db" "doc" (.object []) none, .error (.transport "first")⟩,
          ⟨.insert "db" "doc" (.object []) none, .error (.conflict "second")⟩] ∧
      met .get besieged empty = [⟨.get "db" "doc", .error (.transport "lost")⟩] ∧
      met .create besieged empty = [] :=
  ⟨failures_delivered_in_order empty besieged, rfl, rfl, rfl, rfl⟩

end Runs

end MemoryStore

end Permits
