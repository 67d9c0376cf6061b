import Permits.Data.Keyed
import Permits.Number.Literal

namespace Permits

open Number (Numeral)

/-- A JSON value. The members of an object stand in the order of their names wherever this library
builds one from a text. -/
inductive Json where
  | null
  | bool (value : Bool)
  | number (value : Numeral)
  | string (value : String)
  | array (items : List Json)
  | object (members : List (String × Json))
  deriving Repr

instance : Inhabited Json := ⟨.null⟩

/-- What an object holds: values by name. -/
abbrev Members := Keyed Json

namespace Json

def ofNat (n : Nat) : Json := .number (.whole n)

def texts (ss : List String) : Json := .array (ss.map .string)

def textOrNull (s : Option String) : Json := (s.map .string).getD .null

def text? : Json → Option String
  | .string s => some s
  | _ => none

def flag? : Json → Option Bool
  | .bool b => some b
  | _ => none

/-- The member of an object; nothing for any other value. -/
def get? : Json → String → Option Json
  | .object ms, key => Keyed.find? ms key
  | _, _ => none

end Json

end Permits
