import Permits.Config.Error

namespace Permits

/-- Variables by name. -/
abbrev Environment := String → Option String

namespace Environment

/-- Reads the digits of a port. -/
def portDigits (n : Nat) : List Char → Except NumberFault Nat
  | [] => .ok n
  | c :: rest =>
    match Text.digit? c with
    | none => .error .badDigit
    | some d => if 10 * n + d < 0x10000 then portDigits (10 * n + d) rest else .error .tooLarge

/-- Reads a port; a plus sign may stand in front. -/
def parsePort (s : String) : Except NumberFault UInt16 :=
  match s.toList with
  | [] => .error .empty
  | ['+'] => .error .badDigit
  | '+' :: rest => (portDigits 0 rest).map UInt16.ofNat
  | cs => (portDigits 0 cs).map UInt16.ofNat

def parseFlag : String → Except SettingFault Bool
  | "true" => .ok true
  | "false" => .ok false
  | _ => .error .flag

/-- A variable that replaces a setting if it is there. -/
def override (env : Environment) (name : String) (default : α)
    (parse : String → Except SettingFault α) : Except ConfigError α :=
  match env name with
  | none => .ok default
  | some given =>
    match parse given with
    | .ok a => .ok a
    | .error (.duration .carriedOver) => .error .timeoutOverflow
    | .error cause => .error (.invalidValue name given cause)

def text (env : Environment) (name default : String) : String := (env name).getD default

def config (env : Environment) : Except ConfigError Config := do
  let d : Config := {}
  let policy (s : String) := (FailurePolicy.parse s).mapError SettingFault.policy
  let port ← env.override "DOCGUARD_STORE_PORT" d.store.port fun s =>
    (parsePort s).mapError .number
  let timeout ← env.override "DOCGUARD_STORE_REQUEST_TIMEOUT" d.store.timeout fun s =>
    (Duration.parse s).mapError .duration
  let onProvision ← env.override "DOCGUARD_PROVISION_FAILURE_POLICY" d.permissions.onProvision policy
  let onUpdate ← env.override "DOCGUARD_UPDATE_FAILURE_POLICY" d.permissions.onUpdate policy
  let json ← env.override "DOCGUARD_LOG_JSON" d.logging.json parseFlag
  Config.accept
    { store :=
        { protocol := env.text "DOCGUARD_STORE_PROTOCOL" d.store.protocol
          host := env.text "DOCGUARD_STORE_HOST" d.store.host
          port
          username := env.text "DOCGUARD_STORE_USER" d.store.username
          password := env.text "DOCGUARD_STORE_PASS" d.store.password
          timeout }
      permissions :=
        { publicUser := env.text "DOCGUARD_PUBLIC_USER" d.permissions.publicUser
          onProvision, onUpdate }
      logging := { d.logging with level := env.text "DOCGUARD_LOG_LEVEL" d.logging.level, json } }

end Environment

end Permits
