import Permits.Config.Basic
import Permits.Text.Lowercase

namespace Permits

/-- How grave a message must be to be logged, the least grave first. -/
inductive LogLevel where
  | trace
  | debug
  | info
  | warn
  | error
  deriving DecidableEq, Repr

namespace LogLevel

def word : LogLevel → String
  | trace => "trace"
  | debug => "debug"
  | info => "info"
  | warn => "warn"
  | error => "error"

def ofWord? : String → Option LogLevel
  | "trace" => some trace
  | "debug" => some debug
  | "info" => some info
  | "warn" | "warning" => some warn
  | "error" => some error
  | _ => none

/-- Reads a name in either case. -/
def parse (s : String) : Except String LogLevel :=
  match ofWord? (Text.lowercase s) with
  | some level => .ok level
  | none => .error s!"unknown log level: {Text.lowercase s}"

def rank : LogLevel → Nat
  | trace => 0
  | debug => 1
  | info => 2
  | warn => 3
  | error => 4

instance : Ord LogLevel := ⟨fun a b => compare a.rank b.rank⟩

end LogLevel

/-- How the program logs. -/
structure LogConfig where
  level : LogLevel := .info
  withTarget : Bool := true
  json : Bool := false
  deriving DecidableEq, Repr

def LogConfig.ofSettings (s : LogSettings) : Except String LogConfig :=
  match LogLevel.parse s.level with
  | .ok level => .ok { level, withTarget := s.withTarget, json := s.json }
  | .error reason => .error s!"Invalid logging configuration: {reason}"

end Permits
