import Permits.Data.Datum

namespace Permits.Datum

open Number (Numeral)

/-- How a format writes structures and named choices. -/
structure Format where
  /-- A list may hold more elements than the structure has fields. -/
  surplus : Bool
  /-- What may stand beside the name of a choice written as a table of one entry. -/
  payload : Datum → Bool

def jsonFormat : Format := ⟨false, fun | .null => true | _ => false⟩

def tomlFormat : Format := ⟨true, fun | .list [] => true | .table [] => true | _ => false⟩

def lookup (ms : List (Option String × Datum)) (name : String) : Option Datum :=
  match ms with
  | [] => none
  | (k, d) :: rest => if k = some name then some d else lookup rest name

/-- The fields of a structure by name. A table gives them in any order, each at most once, among
names of no meaning here; a list gives them in the order of `names`. -/
def fields? (f : Format) (names : List String) : Datum → Option (String → Option Datum)
  | .table ms =>
    let known := ms.filterMap (·.1)
    if known.length = ms.length ∧ names.all fun n => known.count n ≤ 1 then some (lookup ms)
    else none
  | .list ds =>
    if f.surplus ∨ ds.length ≤ names.length then some fun n => ds[names.idxOf n]? else none
  | _ => none

/-- A field that may be left out. -/
def field (look : String → Option Datum) (name : String) (default : α)
    (decode : Datum → Option α) : Option α :=
  match look name with
  | none => some default
  | some d => decode d

def text? : Datum → Option String
  | .string s => s
  | _ => none

def flag? : Datum → Option Bool
  | .bool b => some b
  | _ => none

def texts? : Datum → Option (List String)
  | .list ds => ds.mapM text?
  | _ => none

/-- A whole number below the bound. -/
def below? (bound : Nat) : Datum → Option Nat
  | .number (some (.whole n)) => if 0 ≤ n ∧ n < bound then some n.toNat else none
  | _ => none

/-- One of a few names, as a text or as a table whose only entry has that name. -/
def choice? (f : Format) (names : List String) : Datum → Option String
  | .string (some s) => if s ∈ names then some s else none
  | .table [(some k, d)] => if k ∈ names ∧ f.payload d then some k else none
  | _ => none

end Permits.Datum
