import Permits.Data.Setting
import Permits.Duration.Basic
import Permits.Provision.Settings

namespace Permits

/-- The port that a document store listens on if nothing else is said. -/
def usualPort : UInt16 := 5984

def usualTimeout : Duration :=
  ⟨30, 0, Nat.le_of_ble_eq_true rfl, Nat.le_of_ble_eq_true rfl⟩

/-- How the document store is reached. -/
structure StoreSettings where
  /-- `http` or `https`. -/
  protocol : String := "http"
  host : String := "localhost"
  port : UInt16 := usualPort
  username : String := "admin"
  password : String := ""
  /-- The longest that one request may take. -/
  timeout : Duration := usualTimeout
  deriving DecidableEq

structure PermissionSettings where
  /-- The store's name for anyone. -/
  publicUser : String := "public"
  onProvision : FailurePolicy := .bestEffort
  onUpdate : FailurePolicy := .bestEffort
  deriving DecidableEq

structure LogSettings where
  level : String := "info"
  json : Bool := false
  /-- Each line names the part of the program that it comes from. -/
  withTarget : Bool := true
  deriving DecidableEq

structure Config where
  store : StoreSettings := {}
  permissions : PermissionSettings := {}
  logging : LogSettings := {}
  deriving DecidableEq

namespace StoreSettings

def baseUrl (s : StoreSettings) : String := s!"{s.protocol}://{s.host}:{s.port.toNat}"

def table (s : StoreSettings) : SettingsTable :=
  [("protocol", .text s.protocol), ("host", .text s.host), ("port", .whole s.port.toNat),
   ("username", .text s.username), ("password", .text s.password),
   ("request_timeout", .text s.timeout.text)]

/-- For messages: the password is not shown. -/
def described (s : StoreSettings) : String :=
  "StoreConfig \x7b protocol: " ++ Text.quoted s.protocol ++ ", host: " ++ Text.quoted s.host ++
    ", port: " ++ toString s.port.toNat ++ ", username: " ++ Text.quoted s.username ++
    ", password: \"<redacted>\", request_timeout: " ++ s.timeout.described ++ " \x7d"

end StoreSettings

namespace PermissionSettings

def table (s : PermissionSettings) : SettingsTable :=
  [("public_user", .text s.publicUser), ("provision_failure_policy", .text s.onProvision.word),
   ("update_failure_policy", .text s.onUpdate.word)]

def forProvisioner (s : PermissionSettings) : ProvisionSettings :=
  { publicUser := ⟨s.publicUser⟩, onProvision := s.onProvision, onUpdate := s.onUpdate }

end PermissionSettings

def LogSettings.table (s : LogSettings) : SettingsTable :=
  [("level", .text s.level), ("json_format", .flag s.json), ("with_target", .flag s.withTarget)]

/-- What is wrong with a configuration. -/
inductive ConfigFault where
  | protocol (given : String)
  | noHost
  | noPort
  | noTimeout
  | publicUser (given : String)
  | level (given : String)
  deriving DecidableEq, Repr

def ConfigFault.message : ConfigFault → String
  | protocol given => s!"Unsupported store protocol: {given}"
  | noHost => "store host must not be empty"
  | noPort => "store port must be greater than 0"
  | noTimeout => "request_timeout must be greater than 0"
  | publicUser given => s!"Invalid public user: {Text.quoted given}"
  | level given => s!"Invalid log level: {given}"

namespace Config

def sections (c : Config) : List (String × SettingsTable) :=
  [("store", c.store.table), ("permissions", c.permissions.table), ("logging", c.logging.table)]

def json (c : Config) : Json := .object (c.sections.map fun (k, t) => (k, t.json))

/-- Lowercases what may be given in either case. -/
def normalize (c : Config) : Config :=
  { c with
    store := { c.store with protocol := Text.asciiLowercase c.store.protocol }
    logging := { c.logging with level := Text.asciiLowercase c.logging.level } }

def levels : List String := ["trace", "debug", "info", "warn", "error"]

/-- Looks for the first fault. -/
def validate (c : Config) : Except ConfigFault Unit :=
  if c.store.protocol ≠ "http" ∧ c.store.protocol ≠ "https" then .error (.protocol c.store.protocol)
  else if c.store.host = "" then .error .noHost
  else if c.store.port = 0 then .error .noPort
  else if c.store.timeout.isZero then .error .noTimeout
  else if !(Identity.mk c.permissions.publicUser).isWellFormed then
    .error (.publicUser c.permissions.publicUser)
  else if c.logging.level ∉ levels then .error (.level c.logging.level)
  else .ok ()

end Config

end Permits
