namespace Permits.CommandLine

inductive Usage where
  /-- An explanation was asked for. -/
  | help
  | version
  /-- The arguments make no sense. -/
  | wrong
  deriving DecidableEq, Repr

inductive Kind where
  | switch
  /-- It takes a text. -/
  | value
  /-- It takes a path, which is not empty. -/
  | path
  | help
  | version
  deriving DecidableEq, Repr

structure Choice where
  long : String
  short : Option Char := none
  kind : Kind
  deriving DecidableEq, Repr

/-- What may stand between two names of commands: options, and so many other arguments. The name of a
command ends the level. -/
structure Level where
  choices : List Choice
  commands : List String := []
  places : Nat := 0

/-- What has been read. The last option is `pending`, with its value if that has been read, until
something else follows. -/
structure Found where
  options : List (String × String) := []
  pending : Option (Choice × Option String) := none
  values : List String := []

namespace Found

def add (f : Found) (c : Choice) (value : String) : Except Usage Found :=
  if f.options.any (·.1 = c.long) ∨ (c.kind = .path ∧ value = "") then .error .wrong
  else .ok { f with options := f.options ++ [(c.long, value)] }

def settle (f : Found) : Except Usage Found :=
  match f.pending with
  | none => .ok f
  | some (_, none) => .error .wrong
  | some (c, some value) => { f with pending := none }.add c value

def awaiting (f : Found) : Option Choice :=
  match f.pending with
  | some (c, none) => some c
  | _ => none

def value? (f : Found) (long : String) : Option String :=
  (f.options.find? (·.1 = long)).map (·.2)

def take (f : Found) (c : Choice) (attached : Option String) : Except Usage Found := do
  match c.kind, attached with
  | .value, none | .path, none => return { ← f.settle with pending := some (c, none) }
  | .value, some v | .path, some v => (← f.settle).add c v
  | .switch, none => (← f.settle).add c ""
  | .help, none => do
    let _ ← f.settle
    throw .help
  | .version, none => do
    let _ ← f.settle
    throw .version
  | _, some _ => throw .wrong

def place (f : Found) (l : Level) (value : String) : Except Usage Found := do
  let f ← f.settle
  if f.values.length < l.places then return { f with values := f.values ++ [value] }
  else throw .wrong

end Found

namespace Level

/-- An option with two dashes; a value may follow an equals sign. -/
def readLong (l : Level) (f : Found) (cs : List Char) : Except Usage Found :=
  let (name, rest) := cs.span (· ≠ '=')
  match l.choices.find? (·.long.toList = name) with
  | none => .error .wrong
  | some c => f.take c (if rest.isEmpty then none else some (String.ofList (rest.drop 1)))

/-- Options of one letter after one dash. What follows a letter that takes a value is its value. -/
def readShort (l : Level) (f : Found) : List Char → Except Usage Found
  | [] => .ok f
  | c :: cs =>
    match l.choices.find? (·.short = some c) with
    | none => .error .wrong
    | some choice =>
      if choice.kind = .value ∨ choice.kind = .path then
        let attached := match cs with
          | [] => none
          | '=' :: cs => some (String.ofList cs)
          | cs => some (String.ofList cs)
        f.take choice attached
      else do l.readShort (← f.take choice none) cs

/-- Reads arguments up to the name of a command, which is answered with the arguments after it. After
two dashes nothing is an option or a command. -/
def read (l : Level) (escaped : Bool) (f : Found) :
    List String → Except Usage (Found × Option (String × List String))
  | [] => .ok (f, none)
  | a :: rest => do
    if escaped then l.read true (← f.place l a) rest
    else if f.awaiting.isNone ∧ a ∈ l.commands then return (f, some (a, rest))
    else
      match a.toList with
      | ['-', '-'] => l.read true f rest
      | '-' :: '-' :: cs => l.read false (← l.readLong f cs) rest
      | '-' :: c :: cs => l.read false (← l.readShort f (c :: cs)) rest
      | _ =>
        match f.awaiting with
        | some c => l.read false { f with pending := some (c, some a) } rest
        | none => l.read false (← f.place l a) rest

end Level

end Permits.CommandLine
