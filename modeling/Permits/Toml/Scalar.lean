import Permits.Data.Datum
import Permits.Toml.Text

namespace Permits.Toml

def moreDigits? (digit : Char → Option Nat) : List Char → Option (List Nat × List Char)
  | [] => some ([], [])
  | ['_'] => none
  | '_' :: c :: rest => do
    let d ← digit c
    let (ds, rest) ← moreDigits? digit rest
    return (d :: ds, rest)
  | c :: rest =>
    match digit c with
    | some d => (moreDigits? digit rest).map fun (ds, rest) => (d :: ds, rest)
    | none => some ([], c :: rest)

/-- Reads one digit or more of a base; single low lines may stand between them. -/
def digits? (digit : Char → Option Nat) : List Char → Option (List Nat × List Char)
  | [] => none
  | c :: rest => do
    let d ← digit c
    let (ds, rest) ← moreDigits? digit rest
    return (d :: ds, rest)

def digitBelow (base : Nat) (c : Char) : Option Nat :=
  (Text.hexDigit? c).bind fun d => if d < base then some d else none

def ofBase (base : Nat) (ds : List Nat) : Nat := ds.foldl (fun n d => base * n + d) 0

/-- A whole number of 64 bits with a sign. -/
def integer? (n : Int) : Option Datum :=
  if -0x8000000000000000 ≤ n ∧ n < 0x8000000000000000 then some (.number (some (.whole n))) else none

/-- The value of `ds * 10 ^ e` is past the largest double. -/
def isPastDoubles (ds : List Nat) (e : Int) : Bool :=
  let ds := ds.dropWhile (· = 0)
  let top := (ds.length : Int) + e
  if ds.isEmpty ∨ top < -400 then false
  else if 400 < top then true
  else
    let n := Text.ofDigits ds
    let (num, den) := if 0 ≤ e then (n * Number.tenPow e.toNat, 1) else (n, Number.tenPow (-e).toNat)
    (Number.Double.ofRatio num den).isNone

def exponent? (cs : List Char) : Option (Int × List Char) :=
  let (down, cs) := match cs with
    | '-' :: rest => (true, rest)
    | '+' :: rest => (false, rest)
    | _ => (false, cs)
  (digits? Text.digit? cs).map fun (ds, rest) =>
    let n : Int := Text.ofDigits ds
    (if down then -n else n, rest)

def isExponentMark (c : Char) : Bool := c = 'e' || c = 'E'

/-- A float; only a positive one can be too large. -/
def float? (negative : Bool) (ds : List Nat) (e : Int) : Option Datum :=
  if !negative && isPastDoubles ds e then none else some (.number none)

/-- Reads a decimal number after its sign. A zero in front stands alone. -/
def decimal? (negative : Bool) (cs : List Char) : Option (Datum × List Char) := do
  let (whole, rest) ← digits? Text.digit? cs
  if whole.head? = some 0 ∧ whole.length ≠ 1 then none
  match rest with
  | '.' :: rest =>
    let (fraction, rest) ← digits? Text.digit? rest
    let places : Int := fraction.length
    match rest with
    | c :: after =>
      if isExponentMark c then
        let (e, rest) ← exponent? after
        return (← float? negative (whole ++ fraction) (e - places), rest)
      else return (← float? negative (whole ++ fraction) (-places), rest)
    | [] => return (← float? negative (whole ++ fraction) (-places), rest)
  | c :: after =>
    if isExponentMark c then
      let (e, rest) ← exponent? after
      return (← float? negative whole e, rest)
    else
      let n : Int := Text.ofDigits whole
      return (← integer? (if negative then -n else n), rest)
  | [] =>
    let n : Int := Text.ofDigits whole
    return (← integer? (if negative then -n else n), [])

def signed? (negative : Bool) : List Char → Option (Datum × List Char)
  | 'i' :: 'n' :: 'f' :: rest => some (.number none, rest)
  | 'n' :: 'a' :: 'n' :: rest => some (.number none, rest)
  | cs => decimal? negative cs

def based? (base : Nat) (cs : List Char) : Option (Datum × List Char) := do
  let (ds, rest) ← digits? (digitBelow base) cs
  return (← integer? (ofBase base ds), rest)

def number? : List Char → Option (Datum × List Char)
  | '0' :: 'x' :: rest => based? 16 rest
  | '0' :: 'o' :: rest => based? 8 rest
  | '0' :: 'b' :: rest => based? 2 rest
  | '+' :: rest => signed? false rest
  | '-' :: rest => signed? true rest
  | rest => signed? false rest

def two? (limit : Nat) : List Char → Option (Nat × List Char)
  | a :: b :: rest => do
    let n := 10 * (← Text.digit? a) + (← Text.digit? b)
    if n ≤ limit then some (n, rest) else none
  | _ => none

def past? (c : Char) : List Char → Option (List Char)
  | d :: rest => if d = c then some rest else none
  | [] => none

def daysOf (year month : Nat) : Nat :=
  if month = 2 then
    if year % 4 = 0 ∧ (year % 100 ≠ 0 ∨ year % 400 = 0) then 29 else 28
  else if month ∈ [4, 6, 9, 11] then 30 else 31

def day? : List Char → Option (List Char)
  | a :: b :: rest => do
    let (century, _) ← two? 99 [a, b]
    let (year, rest) ← two? 99 rest
    let (month, rest) ← two? 12 (← past? '-' rest)
    let (day, rest) ← two? (daysOf (100 * century + year) month) (← past? '-' rest)
    if month = 0 ∨ day = 0 then none else some rest
  | _ => none

/-- Reads the time of a date: hours, minutes, seconds, of which a fraction may follow. -/
def time? (cs : List Char) : Option (List Char) := do
  let (_, rest) ← two? 23 cs
  let (_, rest) ← two? 59 (← past? ':' rest)
  let (_, rest) ← two? 60 (← past? ':' rest)
  match rest with
  | '.' :: c :: after =>
    if (Text.digit? c).isSome then some (after.dropWhile fun d => (Text.digit? d).isSome)
    else none
  | _ => some rest

/-- Skips an offset from universal time, if there is one. -/
def skipOffset (cs : List Char) : List Char :=
  match cs with
  | c :: rest =>
    if c = 'Z' ∨ c = 'z' then rest
    else if c = '+' ∨ c = '-' then
      (do let (_, rest) ← two? 23 rest
          let (_, rest) ← two? 59 (← past? ':' rest)
          return rest).getD cs
    else cs
  | [] => []

/-- A date or time is a table with one entry that has no name. -/
def moment : Datum := .table [(some "", .null)]

def moment? (cs : List Char) : Option (Datum × List Char) :=
  match day? cs with
  | some rest =>
    match rest with
    | c :: after =>
      if c = 'T' ∨ c = 't' ∨ c = ' ' then
        match time? after with
        | some rest => some (moment, skipOffset rest)
        | none => some (moment, rest)
      else some (moment, rest)
    | [] => some (moment, [])
  | none => (time? cs).map fun rest => (moment, rest)

def scalar (cs : List Char) : Option (Datum × List Char) :=
  match cs with
  | 't' :: 'r' :: 'u' :: 'e' :: rest => some (.bool true, rest)
  | 'f' :: 'a' :: 'l' :: 's' :: 'e' :: rest => some (.bool false, rest)
  | '"' :: _ => (string? cs).map fun (s, rest) => (.string (some s), rest)
  | '\'' :: _ => (string? cs).map fun (s, rest) => (.string (some s), rest)
  | _ => (moment? cs).orElse fun _ => number? cs

end Permits.Toml
