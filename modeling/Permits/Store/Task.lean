import Permits.Store.Counter
import Permits.Store.Document

namespace Permits

inductive StoreCall where
  | create (db : String)
  | destroy (db : String)
  | get (db id : String)
  | insert (db id : String) (body : Json) (rev : Option String)

/-- What a call is answered with: an insertion gives the new revision, if the store keeps one. -/
abbrev StoreCall.Answer : StoreCall → Type
  | .create _ => Except StoreError Unit
  | .destroy _ => Except StoreError Unit
  | .get _ _ => Except StoreError Document
  | .insert _ _ _ _ => Except StoreError (Option String)

/-- Work on a document store: it ends, counts something, or makes a call and goes on with the
answer. -/
inductive Task (α : Type) : Type where
  | done (result : α)
  | count (counter : Counter) (rest : Task α)
  | call (c : StoreCall) (next : c.Answer → Task α)

/-- A document store with states `σ`. -/
abbrev Service (σ : Type) := (c : StoreCall) → σ → c.Answer × σ

namespace Task

def bind : Task α → (α → Task β) → Task β
  | done a, f => f a
  | count k t, f => count k (t.bind f)
  | call c next, f => call c fun a => (next a).bind f

instance : Monad Task where
  pure := done
  bind := bind

def create (db : String) : Task (Except StoreError Unit) := call (.create db) done

def destroy (db : String) : Task (Except StoreError Unit) := call (.destroy db) done

def get (db id : String) : Task (Except StoreError Document) := call (.get db id) done

def insert (db id : String) (body : Json) (rev : Option String) :
    Task (Except StoreError (Option String)) := call (.insert db id body rev) done

def counting (k : Counter) : Task Unit := count k (done ())

/-- The result, the state after the last call, and what was counted, for a task that runs alone. -/
def run (serve : Service σ) : Task α → σ → α × σ × List Counter
  | done a, s => (a, s, [])
  | count k t, s =>
    let (a, s, ks) := t.run serve s
    (a, s, k :: ks)
  | call c next, s =>
    let (answer, s) := serve c s
    (next answer).run serve s

theorem run_bind (serve : Service σ) (t : Task α) (f : α → Task β) (s : σ) :
    (t.bind f).run serve s =
      let (a, s, ks) := t.run serve s
      let (b, s, ls) := (f a).run serve s
      (b, s, ks ++ ls) := by
  induction t generalizing s with
  | done a => simp [bind, run]
  | count k t ih => simp [bind, run, ih]
  | call c next ih => simp [bind, run, ih]

/-- The result when calls are answered by actions. Nothing is counted. -/
def runWith [Monad m] (answer : (c : StoreCall) → m c.Answer) : Task α → m α
  | done a => pure a
  | count _ t => t.runWith answer
  | call c next => do (next (← answer c)).runWith answer

/-- Goes on to just before the next call. -/
def settle : Task α → Task α × List Counter
  | count k t => let (t, ks) := t.settle; (t, k :: ks)
  | t => (t, [])

def result? : Task α → Option α
  | done a => some a
  | _ => none

def step (serve : Service σ) : Task α → σ → Task α × σ × List Counter
  | call c next, s =>
    let (answer, s) := serve c s
    let (t, ks) := (next answer).settle
    (t, s, ks)
  | t, s => (t, s, [])

end Task

/-- Tasks over one store, and what they have counted so far. -/
structure Pool (σ α : Type) where
  state : σ
  tasks : List (Task α)
  counted : List Counter

namespace Pool

def start (s : σ) (ts : List (Task α)) : Pool σ α :=
  ⟨s, ts.map (·.settle.1), ts.flatMap (·.settle.2)⟩

def step (serve : Service σ) (p : Pool σ α) (i : Nat) : Pool σ α :=
  match p.tasks[i]? with
  | none => p
  | some t =>
    let (t, s, ks) := t.step serve p.state
    ⟨s, p.tasks.set i t, p.counted ++ ks⟩

/-- Lets the tasks make their calls in the order that the positions give. -/
def run (serve : Service σ) (p : Pool σ α) (schedule : List Nat) : Pool σ α :=
  schedule.foldl (step serve) p

def results? (p : Pool σ α) : Option (List α) := p.tasks.mapM Task.result?

end Pool

/-- Every task in turn, `rounds` times. -/
def roundRobin (tasks rounds : Nat) : List Nat := (List.replicate rounds (List.range tasks)).flatten

end Permits
