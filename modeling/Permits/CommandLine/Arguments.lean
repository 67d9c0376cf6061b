import Permits.CommandLine.Level

namespace Permits.CommandLine

inductive Command where
  /-- Creates a database and installs its permissions. -/
  | provision (owner db app : String)
  /-- Installs the permissions of a database again. -/
  | update (owner db app : String)
  | deprovision (db : String)
  /-- Shows the documents that a policy is compiled to. -/
  | compile (owner app : String)
  deriving DecidableEq, Repr

structure Arguments where
  logLevel : Option String := none
  jsonLogs : Bool := false
  /-- A configuration file, in place of the environment. -/
  config : Option String := none
  command : Command
  /-- A policy as JSON, or the path of a file with one after an at sign. -/
  policy : Option String := none
  deriving DecidableEq, Repr

def helpChoice : Choice := { long := "help", short := some 'h', kind := .help }

def policyChoice : Choice := { long := "policy", kind := .value }

def commandNames : List String := ["provision", "update", "deprovision", "compile", "help"]

def topLevel : Level where
  choices :=
    [{ long := "log-level", short := some 'l', kind := .value },
     { long := "json-logs", kind := .switch },
     { long := "config", short := some 'c', kind := .path },
     helpChoice, { long := "version", short := some 'V', kind := .version }]
  commands := commandNames

/-- Explains the program or one command. -/
def readHelp : List String → Usage
  | [] => .help
  | [name] => if name ∈ commandNames then .help else .wrong
  | _ => .wrong

/-- Reads the arguments of a command. -/
def readLevel (choices : List Choice) (places : Nat) (args : List String) : Except Usage Found := do
  let (f, _) ← Level.read { choices := choices ++ [helpChoice], places } false {} args
  f.settle

def readCommand (name : String) (args : List String) : Except Usage (Command × Option String) := do
  match name with
  | "provision" =>
    let f ← readLevel [policyChoice] 3 args
    match f.values with
    | [owner, db, app] => return (.provision owner db app, f.value? "policy")
    | _ => throw .wrong
  | "update" =>
    let f ← readLevel [policyChoice] 3 args
    match f.values with
    | [owner, db, app] => return (.update owner db app, f.value? "policy")
    | _ => throw .wrong
  | "deprovision" =>
    let f ← readLevel [] 1 args
    match f.values with
    | [db] => return (.deprovision db, none)
    | _ => throw .wrong
  | "compile" =>
    let f ← readLevel [policyChoice] 2 args
    match f.values with
    | [owner, app] => return (.compile owner app, f.value? "policy")
    | _ => throw .wrong
  | "help" => throw (readHelp args)
  | _ => throw .wrong

/-- Reads the arguments of the program. A fault in what follows the name of a command is found before
one in an option that stands right in front of it. -/
def Arguments.parse (args : List String) : Except Usage Arguments := do
  match ← topLevel.read false {} args with
  | (_, none) => throw .wrong
  | (f, some (name, rest)) =>
    let (command, policy) ← readCommand name rest
    let f ← f.settle
    return { logLevel := f.value? "log-level", jsonLogs := (f.value? "json-logs").isSome,
             config := f.value? "config", command, policy }

end Permits.CommandLine
