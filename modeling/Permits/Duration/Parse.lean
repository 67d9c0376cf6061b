import Permits.Duration.Basic

namespace Permits

/-- What is wrong with the text of a duration. Offsets count bytes. -/
inductive DurationError where
  | empty
  | numberExpected (offset : Nat)
  | invalidCharacter (offset : Nat)
  | unitNeeded (number : Nat)
  | unknownUnit (name : String)
  /-- A number does not fit into 64 bits or leaves a part of the smallest step. -/
  | notRepresentable
  /-- A full second is carried past the largest number of seconds, and no duration comes out. -/
  | carriedOver
  deriving DecidableEq, Repr

def DurationError.message : DurationError → String
  | empty => "value was empty"
  | numberExpected offset => s!"expected number at {offset}"
  | invalidCharacter offset => s!"invalid character at {offset}"
  | unitNeeded number => s!"time unit needed, for example {number}sec or {number}ms"
  | unknownUnit name => "unknown time unit " ++ Text.quoted name ++
    ", supported units: ns, us/µs, ms, sec, min, hours, days, weeks, months, years (and few variations)"
  | notRepresentable => "number is too large or cannot be represented without a lack of precision " ++
    "(values below 1ns are not supported)"
  | carriedOver => "overflow when creating the duration"

inductive TimeUnit where
  | nanosecond
  | microsecond
  | millisecond
  | second
  | minute
  | hour
  | day
  | week
  | month
  | year
  deriving DecidableEq, Repr

namespace TimeUnit

def ofName? : String → Option TimeUnit
  | "nanos" | "nsec" | "ns" => some nanosecond
  | "usec" | "us" | "µs" => some microsecond
  | "millis" | "msec" | "ms" => some millisecond
  | "seconds" | "second" | "secs" | "sec" | "s" => some second
  | "minutes" | "minute" | "min" | "mins" | "m" => some minute
  | "hours" | "hour" | "hr" | "hrs" | "h" => some hour
  | "days" | "day" | "d" => some day
  | "weeks" | "week" | "wk" | "wks" | "w" => some week
  | "months" | "month" | "M" => some month
  | "years" | "year" | "yr" | "yrs" | "y" => some year
  | _ => none

/-- Seconds and nanoseconds of one whole unit; one of the two is zero. -/
def size : TimeUnit → Nat × Nat
  | nanosecond => (0, 1)
  | microsecond => (0, 1000)
  | millisecond => (0, 1000000)
  | second => (1, 0)
  | minute => (60, 0)
  | hour => (3600, 0)
  | day => (Duration.day, 0)
  | week => (7 * Duration.day, 0)
  | month => (Duration.month, 0)
  | year => (Duration.year, 0)

/-- The unit as fractions are taken of it: in nanoseconds up to the minute, in seconds from the hour
on. A nanosecond has no fractions. -/
def divisible : TimeUnit → Option (Nat × Nat)
  | nanosecond => none
  | second => some (0, 1000000000)
  | minute => some (0, 60000000000)
  | u => some u.size

end TimeUnit

namespace Duration

def fit (n : Nat) : Except DurationError Nat :=
  if n < 0x10000000000000000 then .ok n else .error .notRepresentable

/-- Adds seconds and nanoseconds. Nanoseconds are carried when there are more than a second's worth;
exactly a second's worth is carried at the very end, where it may not fit. -/
def add (d : Duration) (secs nanos : Nat) : Except DurationError Duration := do
  let nanos ← fit (d.nanos + nanos)
  let (secs, nanos) ← if 1000000000 < nanos then do
      pure (← fit (secs + nanos / 1000000000), nanos % 1000000000)
    else pure (secs, nanos)
  let secs ← fit (d.secs + secs)
  match ofParts? (secs + nanos / 1000000000) (nanos % 1000000000) with
  | some d => return d
  | none => throw .carriedOver

structure Fraction where
  num : Nat
  den : Nat

/-- `n * num / den`, which must come out whole. -/
def Fraction.of (f : Fraction) (n : Nat) : Except DurationError Nat := do
  let product ← fit (f.num * n)
  if product % f.den = 0 then return product / f.den else throw .notRepresentable

def addUnits (d : Duration) (n : Nat) (f : Option Fraction) (unit : List Char) :
    Except DurationError Duration := do
  match TimeUnit.ofName? (String.ofList unit) with
  | none => throw (if unit.isEmpty then .unitNeeded n else .unknownUnit (String.ofList unit))
  | some u =>
    let d ← d.add (← fit (n * u.size.1)) (← fit (n * u.size.2))
    match f with
    | none => return d
    | some f =>
      match u.divisible with
      | none => throw .notRepresentable
      | some (secs, nanos) => d.add (← f.of secs) (← f.of nanos)

def isUnitChar (c : Char) : Bool := Text.isAsciiLetter c || c = 'µ'

structure Cursor where
  offset : Nat
  rest : List Char

def Cursor.past (c : Char) (offset : Nat) (rest : List Char) : Cursor :=
  ⟨offset + c.utf8Size, rest⟩

/-- Reads up to the first digit of a number. A character that cannot be there is reported at the
offset where the search began. -/
def firstDigit (began : Nat) : Nat → List Char → Except DurationError (Option (Nat × Cursor))
  | _, [] => .ok none
  | offset, c :: rest =>
    match Text.digit? c with
    | some n => .ok (some (n, .past c offset rest))
    | none =>
      if Text.isBlank c then firstDigit began (offset + c.utf8Size) rest
      else .error (.numberExpected began)

inductive Stop where
  | unit (first : Char)
  | point
  | finish

/-- Reads the other digits of a whole number; blanks may stand between them. The cursor stands past
what the number ends with, and the offset is where that stands. -/
def wholePart (n : Nat) (offset : Nat) :
    List Char → Except DurationError (Nat × Stop × Nat × Cursor)
  | [] => .ok (n, .finish, offset, ⟨offset, []⟩)
  | c :: rest =>
    match Text.digit? c with
    | some d => do wholePart (← fit (10 * n + d)) (offset + c.utf8Size) rest
    | none =>
      if Text.isBlank c then wholePart n (offset + c.utf8Size) rest
      else if isUnitChar c then .ok (n, .unit c, offset, .past c offset rest)
      else if c = '.' then .ok (n, .point, offset, .past c offset rest)
      else .error (.invalidCharacter offset)

/-- Reads the digits after a point. What cannot be there is reported at `reported`, the offset of the
point until a character is taken. -/
def fractionPart (f : Fraction) (reported offset : Nat) :
    List Char → Except DurationError (Fraction × Stop × Cursor)
  | [] => if f.den = 1 then .error (.invalidCharacter reported) else .ok (f, .finish, ⟨offset, []⟩)
  | c :: rest =>
    match Text.digit? c with
    | some d => do
      let den ← fit (10 * f.den)
      let num ← fit (10 * f.num + d)
      let next := offset + c.utf8Size
      fractionPart ⟨num, den⟩ next next rest
    | none =>
      if Text.isBlank c then
        let next := offset + c.utf8Size
        fractionPart f next next rest
      else if isUnitChar c then
        if f.den = 1 then .error (.invalidCharacter reported)
        else .ok (f, .unit c, .past c offset rest)
      else .error (.invalidCharacter reported)

/-- Reads the rest of the name of a unit. The digit that a new number may begin with right after it
is read too. -/
def unitPart (offset : Nat) :
    List Char → Except DurationError (List Char × Option Nat × Cursor)
  | [] => .ok ([], none, ⟨offset, []⟩)
  | c :: rest =>
    match Text.digit? c with
    | some d => .ok ([], some d, .past c offset rest)
    | none =>
      if Text.isBlank c then .ok ([], none, .past c offset rest)
      else if isUnitChar c then do
        let (name, next, cursor) ← unitPart (offset + c.utf8Size) rest
        return (c :: name, next, cursor)
      else .error (.invalidCharacter offset)

def unitName (stop : Stop) (k : Cursor) :
    Except DurationError (List Char × Option Nat × Cursor) :=
  match stop with
  | .unit c => do
    let (name, next, k) ← unitPart k.offset k.rest
    return (c :: name, next, k)
  | _ => .ok ([], none, k)

/-- Reads numbers with units, the first digit of the first number being read already, and adds them.
Each takes at least one character, so the length of the text is enough `fuel`. -/
def spans : Nat → Nat → Cursor → Duration → Except DurationError Duration
  | 0, _, _, d => .ok d
  | fuel + 1, n, k, d => do
    let (n, stop, offset, k) ← wholePart n k.offset k.rest
    let (f, stop, k) ← match stop with
      | .point => do
        let (f, stop, k) ← fractionPart ⟨0, 1⟩ offset k.offset k.rest
        pure (some f, stop, k)
      | stop => pure (none, stop, k)
    let (unit, next, k) ← unitName stop k
    let d ← d.addUnits n f unit
    match next with
    | some n => spans fuel n k d
    | none =>
      match ← firstDigit k.offset k.offset k.rest with
      | some (n, k) => spans fuel n k d
      | none => return d

/-- Reads a duration such as `1h 30m`; `0` alone needs no unit. -/
def parse (s : String) : Except DurationError Duration :=
  if s = "0" then .ok zero
  else do
    match ← firstDigit 0 0 s.toList with
    | none => throw .empty
    | some (n, k) => spans (s.length + 1) n k zero

end Duration

end Permits
