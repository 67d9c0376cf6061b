import Permits.Config.Basic
import Permits.Data.Directory
import Permits.Duration.Parse

namespace Permits

/-- What is wrong with the text of a whole number. -/
inductive NumberFault where
  | empty
  | badDigit
  | tooLarge
  deriving DecidableEq, Repr

def NumberFault.message : NumberFault → String
  | empty => "cannot parse integer from empty string"
  | badDigit => "invalid digit found in string"
  | tooLarge => "number too large to fit in target type"

inductive SettingFault where
  | number (fault : NumberFault)
  | flag
  | duration (fault : DurationError)
  | policy (text : String)
  deriving DecidableEq, Repr

def SettingFault.message : SettingFault → String
  | number fault => fault.message
  | flag => "provided string was not \x60true\x60 or \x60false\x60"
  | duration fault => fault.message
  | policy text => text

/-- Why there is no configuration. -/
inductive ConfigError where
  | read (path : String) (cause : FileError)
  | write (path : String) (cause : FileError)
  /-- A file is not a document of the format, or a setting in it has the wrong form. -/
  | malformed
  | invalidValue (name given : String) (cause : SettingFault)
  | invalid (cause : ConfigFault)
  /-- A timeout adds up to more than a duration holds. -/
  | timeoutOverflow
  deriving DecidableEq, Repr

def ConfigError.message : ConfigError → String
  | read path cause => s!"Failed to read configuration file {path}: {cause.message}"
  | write path cause => s!"Failed to write configuration file {path}: {cause.message}"
  | malformed => "Failed to parse configuration"
  | invalidValue name given cause =>
    s!"Invalid value for {name}: {Text.quoted given}: {cause.message}"
  | invalid cause => s!"Configuration validation failed: {cause.message}"
  | timeoutOverflow => DurationError.carriedOver.message

/-- The form in which a configuration is used: normalized, and without faults. -/
def Config.accept (c : Config) : Except ConfigError Config := do
  let c := c.normalize
  (c.validate).mapError .invalid
  return c

end Permits
