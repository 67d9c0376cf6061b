import Permits.Text.Quoted
import Permits.Text.Classes

namespace Permits

/-- A span of time in whole nanoseconds. -/
structure Duration where
  secs : Nat
  nanos : Nat
  secs_lt : secs < 0x10000000000000000 := by omega
  nanos_lt : nanos < 1000000000 := by omega
  deriving DecidableEq

namespace Duration

def zero : Duration := ⟨0, 0, by decide, by decide⟩

instance : Inhabited Duration := ⟨zero⟩

def isZero (d : Duration) : Bool := d.secs == 0 && d.nanos == 0

def ofParts? (secs nanos : Nat) : Option Duration :=
  if h : secs < 0x10000000000000000 ∧ nanos < 1000000000 then some ⟨secs, nanos, h.1, h.2⟩ else none

def year : Nat := 31557600

def month : Nat := 2630016

def day : Nat := 86400

/-- The counts of the units that a text shows, largest first, each with its name. Years, months and
days have a plural. -/
def items (d : Duration) : List (Nat × String) :=
  let plural (n : Nat) (name : String) := (n, if 1 < n then name ++ "s" else name)
  let inYear := d.secs % year
  let inMonth := inYear % month
  let inDay := inMonth % day
  [plural (d.secs / year) "year", plural (inYear / month) "month", plural (inMonth / day) "day",
   (inDay / 3600, "h"), (inDay % 3600 / 60, "m"), (inDay % 60, "s"),
   (d.nanos / 1000000, "ms"), (d.nanos / 1000 % 1000, "us"), (d.nanos % 1000, "ns")]

/-- The units that occur, with a blank between them; `0s` if none does. -/
def text (d : Duration) : String :=
  if d.isZero then "0s"
  else " ".intercalate ((d.items.filter (·.1 ≠ 0)).map fun (n, name) => s!"{n}{name}")

/-- The digits of `n` after a point, `width` of them less the zeros at the end. -/
def decimals (n width : Nat) : List Char :=
  let ds := Nat.toDigits 10 n
  let all := List.replicate (width - ds.length) '0' ++ ds
  (all.reverse.dropWhile (· = '0')).reverse

def withDecimals (whole fraction width : Nat) (name : String) : String :=
  let ds := decimals fraction width
  toString whole ++ String.ofList (if ds.isEmpty then [] else '.' :: ds) ++ name

/-- In the largest unit of at most a second that it fills. -/
def described (d : Duration) : String :=
  if 0 < d.secs then withDecimals d.secs d.nanos 9 "s"
  else if 1000000 ≤ d.nanos then withDecimals (d.nanos / 1000000) (d.nanos % 1000000) 6 "ms"
  else if 1000 ≤ d.nanos then withDecimals (d.nanos / 1000) (d.nanos % 1000) 3 "µs"
  else s!"{d.nanos}ns"

end Duration

end Permits
