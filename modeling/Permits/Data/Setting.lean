import Permits.Data.Datum

namespace Permits

/-- The value of one setting. -/
inductive Setting where
  | text (value : String)
  | whole (value : Nat)
  | flag (value : Bool)
  deriving DecidableEq, Repr

namespace Setting

def json : Setting → Json
  | text s => .string s
  | whole n => .ofNat n
  | flag b => .bool b

def datum (s : Setting) : Datum := .ofJson s.json

end Setting

/-- Settings by name, in the order in which they are written. -/
abbrev SettingsTable := List (String × Setting)

def SettingsTable.json (t : SettingsTable) : Json := .object (t.map fun (k, s) => (k, s.json))

end Permits
