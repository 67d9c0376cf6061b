import Permits.Json.Value

namespace Permits

open Number (Numeral)

/-- What a JSON or TOML text holds, just as it is written: repeated names are kept. A number out of
range and a string with half a surrogate pair have no value, which matters only where the value is
used. -/
inductive Datum where
  | null
  | bool (value : Bool)
  | number (value : Option Numeral)
  | string (value : Option String)
  | list (items : List Datum)
  | table (members : List (Option String × Datum))

instance : Inhabited Datum := ⟨.null⟩

namespace Datum

mutual

/-- The JSON value, if all numbers and strings have one and at most `depth` lists and tables lie
within each other. Of equal names the last counts. -/
def json? : Nat → Datum → Option Json
  | _, .null => some .null
  | _, .bool b => some (.bool b)
  | _, .number n => n.map .number
  | _, .string s => s.map .string
  | 0, .list _ => none
  | 0, .table _ => none
  | depth + 1, .list items => (items? depth items).map .array
  | depth + 1, .table members => (members? depth members []).map .object

def items? : Nat → List Datum → Option (List Json)
  | _, [] => some []
  | depth, d :: rest => do
    let v ← json? depth d
    let vs ← items? depth rest
    return v :: vs

def members? : Nat → List (Option String × Datum) → Members → Option Members
  | _, [], done => some done
  | depth, (key, d) :: rest, done => do
    let k ← key
    let v ← json? depth d
    members? depth rest (Keyed.put done k v)

end

mutual

/-- The value as it would be written. -/
def ofJson : Json → Datum
  | .null => .null
  | .bool b => .bool b
  | .number n => .number (some n)
  | .string s => .string (some s)
  | .array items => .list (ofItems items)
  | .object members => .table (ofMembers members)

def ofItems : List Json → List Datum
  | [] => []
  | v :: rest => ofJson v :: ofItems rest

def ofMembers : List (String × Json) → List (Option String × Datum)
  | [] => []
  | (k, v) :: rest => (some k, ofJson v) :: ofMembers rest

end

end Datum

end Permits
