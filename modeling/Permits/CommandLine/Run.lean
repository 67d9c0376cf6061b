import Permits.CommandLine.Arguments
import Permits.Config.Environment
import Permits.Config.File
import Permits.Config.Logging
import Permits.Http.Client
import Permits.Provision.Provisioner

namespace Permits.CommandLine

inductive Failure where
  | configFile (path : String) (cause : ConfigError)
  | environment (cause : ConfigError)
  /-- The configuration with what the arguments change in it. -/
  | config (cause : ConfigError)
  | logging (reason : String)
  | client (cause : StoreError)
  | policyFile (path : String) (cause : FileError)
  | notAPolicy
  | policy (cause : PolicyError)
  | provision (cause : ProvisionError)
  /-- A timeout adds up to more than a duration holds. -/
  | timeoutOverflow
  deriving DecidableEq, Repr

namespace Failure

def message : Failure → String
  | configFile path _ => s!"Failed to load config from {path}"
  | environment _ => "Failed to load config from environment"
  | config cause => cause.message
  | logging reason => reason
  | client cause => cause.message
  | policyFile path _ => s!"Failed to read policy file {path}"
  | notAPolicy => "Policy is not a valid permission policy"
  | policy cause => cause.message
  | provision cause => cause.message
  | timeoutOverflow => ConfigError.timeoutOverflow.message

def code : Failure → Nat
  | timeoutOverflow => 101
  | _ => 1

def report? : Failure → Option String
  | timeoutOverflow => none
  | f => some ("Error: " ++ f.message)

end Failure

/-- What a run of the program leaves behind. -/
structure Outcome where
  code : Nat
  output : String := ""
  report : Option String := none
  deriving DecidableEq, Repr

structure Surroundings where
  environment : Environment
  read : String → Except FileError ByteArray

def orFailure (wrap : ConfigError → Failure) : Except ConfigError α → Except Failure α
  | .ok a => .ok a
  | .error .timeoutOverflow => .error .timeoutOverflow
  | .error cause => .error (wrap cause)

/-- The configuration from a file or else from the environment, with what the arguments change. -/
def loadConfig (s : Surroundings) (a : Arguments) : Except Failure Config := do
  let c ← match a.config with
    | some path => orFailure (.configFile path) (Config.ofFile path (s.read path))
    | none => orFailure .environment s.environment.config
  let logging : LogSettings :=
    { c.logging with level := a.logLevel.getD c.logging.level, json := a.jsonLogs || c.logging.json }
  orFailure .config { c with logging }.accept

def loadOptions (s : Surroundings) (a : Arguments) : Except Failure DatabaseOptions := do
  let text (given : String) : Except Failure String :=
    match given.toList with
    | '@' :: path =>
      let path := String.ofList path
      ((s.read path).bind textOf).mapError (.policyFile path)
    | _ => .ok given
  match a.policy with
  | none => return {}
  | some given =>
    match Policy.parse? (← text given) with
    | some p => return { permissions := some p }
    | none => throw .notAPolicy

/-- The work of a command; the result is what the program prints. -/
def Command.task (c : Command) (p : Provisioner) (o : DatabaseOptions) :
    Task (Except Failure Json) :=
  match c with
  | .provision owner db app => do
    return ((← p.provision owner db app o).map ProvisionReport.json).mapError .provision
  | .update owner db app => do
    return ((← p.update owner db app o).map PermissionReport.json).mapError .provision
  | .deprovision db => do
    return ((← Provisioner.deprovision db).map fun d => .string d.word).mapError .provision
  | .compile owner app =>
    let documents (a : Artifacts) : Json :=
      .object (a.documents.foldl (fun ms (id, body) => Keyed.put ms id (.object body)) [])
    return ((p.compile owner app o).map documents).mapError .policy

/-- Everything that is found out before the store is asked: whom to ask, and what is to be done. -/
structure Job where
  client : Http.Client
  config : Config
  task : Task (Except Failure Json)

def prepare (s : Surroundings) (a : Arguments) : Except Failure Job := do
  let config ← loadConfig s a
  let _ ← (LogConfig.ofSettings config.logging).mapError .logging
  let client ← (Http.Client.ofSettings config.store).mapError .client
  let options ← loadOptions s a
  let p : Provisioner := ⟨hashedTranslator, config.permissions.forProvisioner⟩
  return { client, config, task := a.command.task p options }

def Outcome.ofResult : Except Failure Json → Outcome
  | .ok v => { code := 0, output := v.pretty ++ "\n" }
  | .error f => { code := f.code, report := f.report? }

def Usage.outcome (help version : String) : Usage → Outcome
  | .help => { code := 0, output := help }
  | .version => { code := 0, output := version }
  | .wrong => { code := 2 }

end Permits.CommandLine
