import Mathlib.Algebra.BigOperators.Group.List.Basic
import Mathlib.Algebra.Ring.Int.Defs
import Permits.Proofs.Store.Journal
import Permits.Proofs.Store.Representation

namespace Permits

/-- What a database, a write and a failed pass are each worth. -/
structure Prices where
  database : Int
  write : Int
  failure : Int

namespace Prices

variable (v : Prices)

def worth : Counter → Int
  | .created => v.database
  | .destroyed => -v.database
  | .applied => v.write
  | .retired => v.write
  | .failed => v.failure
  | .converged => 0

def total (counted : List Counter) : Int := (counted.map v.worth).sum

/-- What a store gains with a call. -/
def gain : (c : StoreCall) → c.Answer → Int
  | .create _, .ok _ => v.database
  | .destroy _, .ok _ => -v.database
  | .insert _ _ _ _, .ok _ => v.write
  | _, _ => 0

def measure (s : MemoryStore) : Int := v.database * s.databases.length + v.write * s.writes

@[simp] theorem total_nil : v.total [] = 0 := rfl

@[simp] theorem total_cons (k : Counter) (ks : List Counter) :
    v.total (k :: ks) = v.worth k + v.total ks := by simp [total]

@[simp] theorem total_append (ks ls : List Counter) :
    v.total (ks ++ ls) = v.total ks + v.total ls := by simp [total]

theorem total_eq (ks : List Counter) :
    v.total ks = v.database * (ks.count .created - ks.count .destroyed) +
      v.write * (ks.count .applied + ks.count .retired) + v.failure * ks.count .failed := by
  induction ks with
  | nil => simp
  | cons k ks ih =>
    rw [total_cons, ih]
    cases k <;> simp [worth] <;> grind

end Prices

namespace MemoryStore

variable {s : MemoryStore} {v : Prices}

/-- Every name is kept once, and no competing write waits. -/
structure Sound (s : MemoryStore) : Prop where
  represented : Represented s.databases
  races : s.races = []

theorem sound_empty : Sound empty := ⟨represented_nil, rfl⟩

/-- What a call leaves is worth more by what it gained. -/
def Worth {β : Type} (v : Prices) (gain : β → Int) (s : MemoryStore) (result : β × MemoryStore) :
    Prop :=
  v.measure result.2 = v.measure s + gain result.1 ∧ result.2.races = []

section Calls

variable {α : Type} {gain : Except StoreError α → Int}

theorem Sound.stay (h : s.Sound) {e : StoreError} (hgain : gain (.error e) = 0) :
    Worth v gain s (.error e, s) := by
  refine ⟨?_, h.races⟩
  rw [hgain, Int.add_zero]

/-- A failure that was put in the way is worth nothing. -/
theorem Sound.faulty (h : s.Sound) (hgain : ∀ e, gain (.error e) = 0) {op : Operation}
    {call : MemoryStore → Except StoreError α × MemoryStore} (hcall : Worth v gain s (call s)) :
    Worth v gain s (MemoryStore.faulty op s call) := by
  rcases faulty_cases op s call with ⟨e, rest, heq⟩ | heq
  · rw [heq]
    exact ⟨by rw [hgain, Int.add_zero]; rfl, h.races⟩
  · rwa [heq]

theorem Sound.create (h : s.Sound) (db : String) :
    Worth v (v.gain (.create db)) s (MemoryStore.create db s) := by
  unfold MemoryStore.create
  split
  · exact h.stay rfl
  · next hnew =>
    have hlength := h.represented.names.length_put db {}
    rw [if_neg hnew] at hlength
    refine ⟨?_, h.races⟩
    simp only [Prices.measure, Prices.gain, hlength]
    grind

theorem Sound.destroy (h : s.Sound) (db : String) :
    Worth v (v.gain (.destroy db)) s (MemoryStore.destroy db s) := by
  unfold MemoryStore.destroy
  split
  · next hold =>
    have hlength := h.represented.names.length_erase hold
    refine ⟨?_, h.races⟩
    simp only [Prices.measure, Prices.gain, ← hlength]
    grind
  · exact h.stay rfl

theorem Sound.get (h : s.Sound) (db id : String) :
    Worth v (v.gain (.get db id)) s (MemoryStore.get db id s) := by
  have hgain (answer : Except StoreError Document) : v.gain (.get db id) answer = 0 := rfl
  unfold MemoryStore.get
  split <;> exact ⟨by rw [hgain, Int.add_zero], h.races⟩

theorem Sound.written (h : s.Sound) {db : String} (hex : s.databaseExists db = true) (id : String)
    (body : Members) :
    v.measure (s.written db id body) = v.measure s + v.write ∧
      (s.written db id body).races = [] := by
  obtain ⟨d, hd⟩ := exists_database hex
  have hold : s.databases.contains db = true := hex
  have hlength := h.represented.names.length_put db (Database.written d id body)
  rw [if_pos hold] at hlength
  simp only [MemoryStore.written, hd]
  refine ⟨?_, h.races⟩
  simp only [Prices.measure, hlength]
  grind

theorem Sound.insert (h : s.Sound) (db id : String) (body : Json) (rev : Option String) :
    Worth v (v.gain (.insert db id body rev)) s (MemoryStore.insert db id body rev s) := by
  unfold MemoryStore.insert
  split
  · exact h.stay rfl
  · next ms _ =>
    apply h.faulty fun _ => rfl
    -- without competitors, what an insertion writes is its own
    rw [insertRaced, h.races]
    dsimp only [List.find?_nil]
    unfold writeOrStay
    split
    · next r t hw =>
      obtain ⟨hacc, -, rfl⟩ := write_eq_ok hw
      exact h.written (databaseExists_of_accepts hacc) id ms
    · exact h.stay rfl

theorem Sound.serve (h : s.Sound) (c : StoreCall) :
    (MemoryStore.serve c s).2.Sound ∧
      v.measure (MemoryStore.serve c s).2 = v.measure s + v.gain c (MemoryStore.serve c s).1 := by
  have hrep := lasting_represented.serve h.represented c
  have hworth : Worth v (v.gain c) s (MemoryStore.serve c s) := by
    cases c with
    | create db => exact h.faulty (fun _ => rfl) (h.create db)
    | destroy db => exact h.faulty (fun _ => rfl) (h.destroy db)
    | get db id => exact h.faulty (fun _ => rfl) (h.get db id)
    | insert db id body rev => exact h.insert db id body rev
  exact ⟨⟨hrep, hworth.2⟩, hworth.1⟩

end Calls

end MemoryStore

namespace Task

variable {α β : Type} {v : Prices} {due : α → Int} {b : Int}

/-- A task that has counted more than its calls brought in by `b` makes up for it before its next
call, and is left with what its result is due. -/
def Balanced (v : Prices) (due : α → Int) : Task α → Int → Prop
  | done a, b => b = due a
  | count k t, b => t.Balanced v due (b + v.worth k)
  | call c next, b => b = 0 ∧ ∀ a, (next a).Balanced v due (-v.gain c a)

/-- What a task is due as it stands, before a call or at its end. -/
def atRest (due : α → Int) : Task α → Int
  | done a => due a
  | _ => 0

theorem Balanced.bind {goal : β → Int} {t : Task α} {f : α → Task β} (ht : t.Balanced v due b)
    (hf : ∀ a, (f a).Balanced v goal (due a)) : (t.bind f).Balanced v goal b := by
  induction t generalizing b with
  | done a =>
    rw [show b = due a from ht]
    exact hf a
  | count k t ih => exact ih ht
  | call c next ih => exact ⟨ht.1, fun a => ih a (ht.2 a)⟩

theorem Balanced.settle {t : Task α} (ht : t.Balanced v due b) :
    t.settle.1.Balanced v due (t.settle.1.atRest due) ∧
      t.settle.1.atRest due = b + v.total t.settle.2 := by
  induction t generalizing b with
  | done a =>
    refine ⟨rfl, ?_⟩
    rw [show b = due a from ht]
    exact (Int.add_zero _).symm
  | count k t ih =>
    obtain ⟨hrest, htotal⟩ := ih ht
    refine ⟨hrest, ?_⟩
    simp only [Task.settle, Prices.total_cons, htotal, Int.add_assoc]
  | call c next ih =>
    obtain ⟨rfl, hnext⟩ := ht
    exact ⟨⟨rfl, hnext⟩, rfl⟩

end Task

namespace Pool

open MemoryStore

variable {α : Type} {v : Prices} {due : α → Int} {p : Pool MemoryStore α}

/-- What the tasks have counted is what the store has become worth, and what their results are
due. -/
structure Books (v : Prices) (due : α → Int) (p : Pool MemoryStore α) : Prop where
  sound : p.state.Sound
  balanced : ∀ t ∈ p.tasks, t.Balanced v due (t.atRest due)
  total : v.total p.counted = v.measure p.state + (p.tasks.map (Task.atRest due)).sum

theorem sum_map_set {β : Type} (f : β → Int) {xs : List β} {i : Nat} {x : β}
    (hx : xs[i]? = some x) (y : β) :
    ((xs.set i y).map f).sum = (xs.map f).sum - f x + f y := by
  obtain ⟨hi, rfl⟩ := List.getElem?_eq_some_iff.1 hx
  have hlength : i < (xs.map f).length := by rwa [List.length_map]
  rw [List.map_set, List.sum_set', dif_pos hlength, List.getElem_map]
  omega

/-- The call of a task changes the store by as much as the task then counts. -/
theorem Books.step (h : p.Books v due) (i : Nat) : (p.step serve i).Books v due := by
  unfold Pool.step
  split
  · exact h
  · next t ht =>
    have hbalanced := h.balanced t (List.mem_of_getElem? ht)
    have hsame : p.tasks.set i t = p.tasks := by
      obtain ⟨hi, rfl⟩ := List.getElem?_eq_some_iff.1 ht
      exact List.set_getElem_self hi
    -- only a task that stands before a call moves
    cases t with
    | done a => simpa only [Task.step, hsame, List.append_nil] using h
    | count k t => simpa only [Task.step, hsame, List.append_nil] using h
    | call c next =>
      obtain ⟨hsound, hmeasure⟩ := h.sound.serve (v := v) c
      obtain ⟨hrest, htotal⟩ := (hbalanced.2 (serve c p.state).1).settle
      refine ⟨hsound, fun u hu => ?_, ?_⟩
      · rcases List.mem_or_eq_of_mem_set hu with hu | rfl
        · exact h.balanced u hu
        · exact hrest
      · have hsum := sum_map_set (Task.atRest due) ht (next (serve c p.state).1).settle.1
        have hbefore : (Task.call c next).atRest due = 0 := rfl
        simp only [Task.step, Prices.total_append, h.total, hsum, hmeasure, htotal, hbefore]
        omega

theorem Books.join (h : p.Books v due) {t : Task α} (ht : t.Balanced v due 0) :
    Books v due ⟨p.state, p.tasks ++ [t.settle.1], p.counted ++ t.settle.2⟩ := by
  obtain ⟨hrest, htotal⟩ := ht.settle
  refine ⟨h.sound, fun u hu => ?_, ?_⟩
  · rcases List.mem_append.1 hu with hu | hu
    · exact h.balanced u hu
    · rw [List.mem_singleton.1 hu]
      exact hrest
  · simp only [Prices.total_append, h.total, List.map_append, List.sum_append, List.map_singleton,
      List.sum_singleton, htotal]
    omega

end Pool

end Permits
