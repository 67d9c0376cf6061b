import Permits.Config.Error
import Permits.Toml.Reader
import Permits.Toml.Writer

namespace Permits

open Datum (Format)

namespace Config

def orMalformed : Option α → Except ConfigError α
  | some a => .ok a
  | none => .error .malformed

/-- Reads a structure. Its settings are taken in the order in which they are written, each over the
usual one, and the first that has the wrong form counts; a list that is too long shows at its end. -/
def readSettings (f : Format) (names : List String)
    (take : α → String → Datum → Except ConfigError α) (usual : α) : Datum → Except ConfigError α
  | .table members => members.foldlM (fun s (name, d) => do take s (← orMalformed name) d) usual
  | .list ds => do
    let s ← (names.zip ds).foldlM (fun s (name, d) => take s name d) usual
    if f.surplus ∨ ds.length ≤ names.length then return s else throw .malformed
  | _ => .error .malformed

def textSetting (d : Datum) : Except ConfigError String := orMalformed d.text?

def flagSetting (d : Datum) : Except ConfigError Bool := orMalformed d.flag?

def portSetting (d : Datum) : Except ConfigError UInt16 :=
  orMalformed ((d.below? 0x10000).map UInt16.ofNat)

def timeoutSetting (d : Datum) : Except ConfigError Duration := do
  match Duration.parse (← textSetting d) with
  | .ok timeout => return timeout
  | .error .carriedOver => throw .timeoutOverflow
  | .error _ => throw .malformed

def policySetting (f : Format) (d : Datum) : Except ConfigError FailurePolicy :=
  orMalformed ((d.choice? f ["best_effort", "strict"]).bind FailurePolicy.ofWord?)

end Config

open Config

/-- Takes one setting. A name of no meaning here is passed over. -/
def StoreSettings.take (s : StoreSettings) (name : String) (d : Datum) :
    Except ConfigError StoreSettings :=
  match name with
  | "protocol" => do return { s with protocol := ← textSetting d }
  | "host" => do return { s with host := ← textSetting d }
  | "port" => do return { s with port := ← portSetting d }
  | "username" => do return { s with username := ← textSetting d }
  | "password" => do return { s with password := ← textSetting d }
  | "request_timeout" => do return { s with timeout := ← timeoutSetting d }
  | _ => .ok s

def PermissionSettings.take (f : Format) (s : PermissionSettings) (name : String) (d : Datum) :
    Except ConfigError PermissionSettings :=
  match name with
  | "public_user" => do return { s with publicUser := ← textSetting d }
  | "provision_failure_policy" => do return { s with onProvision := ← policySetting f d }
  | "update_failure_policy" => do return { s with onUpdate := ← policySetting f d }
  | _ => .ok s

def LogSettings.take (s : LogSettings) (name : String) (d : Datum) :
    Except ConfigError LogSettings :=
  match name with
  | "level" => do return { s with level := ← textSetting d }
  | "json_format" => do return { s with json := ← flagSetting d }
  | "with_target" => do return { s with withTarget := ← flagSetting d }
  | _ => .ok s

def StoreSettings.ofDatum (f : Format) : Datum → Except ConfigError StoreSettings :=
  readSettings f ["protocol", "host", "port", "username", "password", "request_timeout"] take {}

def PermissionSettings.ofDatum (f : Format) : Datum → Except ConfigError PermissionSettings :=
  readSettings f ["public_user", "provision_failure_policy", "update_failure_policy"] (take f) {}

def LogSettings.ofDatum (f : Format) : Datum → Except ConfigError LogSettings :=
  readSettings f ["level", "json_format", "with_target"] take {}

namespace Config

def take (f : Format) (c : Config) (name : String) (d : Datum) : Except ConfigError Config :=
  match name with
  | "store" => do return { c with store := ← StoreSettings.ofDatum f d }
  | "permissions" => do return { c with permissions := ← PermissionSettings.ofDatum f d }
  | "logging" => do return { c with logging := ← LogSettings.ofDatum f d }
  | _ => .ok c

/-- Reads a configuration as it is written; every setting may be left out. -/
def ofDatum (f : Format) : Datum → Except ConfigError Config :=
  readSettings f ["store", "permissions", "logging"] (take f) {}

/-- The text of a configuration file. -/
def fileText (c : Config) : String := Toml.write c.sections

/-- The configuration that the text of a file gives. -/
def ofFileText (text : String) : Except ConfigError Config := do
  let d ← orMalformed (Toml.read? text)
  (← ofDatum Datum.tomlFormat d).accept

/-- The configuration that a file gives. -/
def ofFile (path : String) (contents : Except FileError ByteArray) : Except ConfigError Config := do
  ofFileText (← (contents.bind textOf).mapError (.read path))

def load (dir : Directory) (path : String) : Except ConfigError Config :=
  ofFile path (dir.read path)

def save (c : Config) (dir : Directory) (path : String) : Except ConfigError Directory :=
  (dir.write path c.fileText.toUTF8).mapError (.write path)

end Config

end Permits
