import Permits.Data.Keyed
import Permits.Toml.Scalar

namespace Permits.Toml

/-- What stands at a name while a document is read. A table is `implicit` if only longer names speak
of it, and `dotted` if those are keys with points and not headers. -/
inductive Item where
  | value (d : Datum)
  | table (implicit dotted : Bool) (entries : List (String × Item))
  | tables (elements : List (List (String × Item)))

abbrev Entries := Keyed Item

/-- Changes the table at a path, making the tables on the way. `dotted` tells a path of a key, which
may not enter a table that has a header of its own, from a path of a header. The change is told
whether the table that it finds is a dotted one. -/
def within (dotted : Bool) (change : Bool → Entries → Option Entries) :
    Bool → List String → Entries → Option Entries
  | isDotted, [], es => change isDotted es
  | _, k :: path, es =>
    match es.find? k with
    | none => do
      let sub ← within dotted change dotted path []
      return es.putLast k (.table true dotted sub)
    | some (.value _) => none
    | some (.tables elements) =>
      match elements.reverse with
      | [] => none
      | last :: before => do
        let last ← within dotted change false path last
        return es.putLast k (.tables (last :: before).reverse)
    | some (.table implicit isDotted sub) =>
      if dotted && !implicit then none
      else do
        let sub ← within dotted change isDotted path sub
        return es.putLast k (.table implicit isDotted sub)

/-- Sets a name that is not taken. A path of several parts must end in a dotted table. -/
def setPair (es : Entries) (key : List String) (d : Datum) : Option Entries := do
  let name ← key.getLast?
  let path := key.dropLast
  within true (fun isDotted es =>
    if isDotted == path.isEmpty || es.contains name then none else some (es.putLast name (.value d)))
    false path es

mutual

def Item.datum : Item → Datum
  | .value d => d
  | .table _ _ entries => .table (entriesData entries)
  | .tables elements => .list (elementsData elements)

def entriesData : List (String × Item) → List (Option String × Datum)
  | [] => []
  | (k, i) :: rest => (some k, i.datum) :: entriesData rest

def elementsData : List (List (String × Item)) → List Datum
  | [] => []
  | es :: rest => .table (entriesData es) :: elementsData rest

end

mutual

/-- Reads a value. `room` is how many lists and tables may still lie within each other; every step
takes a character at least, so the length of the text is enough `fuel`. -/
def readValue : Nat → Nat → List Char → Option (Datum × List Char)
  | 0, _, _ => none
  | fuel + 1, room, cs =>
    match cs with
    | '[' :: rest =>
      match room with
      | 0 => none
      | room + 1 => (readItems fuel room (skipGap false rest)).map fun (ds, rest) => (.list ds, rest)
    | '\x7b' :: rest =>
      match room with
      | 0 => none
      | room + 1 =>
        match skipSpace rest with
        | '\x7d' :: rest => some (.table [], rest)
        | rest =>
          (readPairs fuel room [] rest).map fun (es, rest) => (.table (entriesData es), rest)
    | cs => scalar cs

def readItems : Nat → Nat → List Char → Option (List Datum × List Char)
  | 0, _, _ => none
  | fuel + 1, room, cs =>
    match cs with
    | ']' :: rest => some ([], rest)
    | cs => do
      let (d, rest) ← readValue fuel room cs
      match skipGap false rest with
      | ',' :: rest =>
        let (ds, rest) ← readItems fuel room (skipGap false rest)
        return (d :: ds, rest)
      | ']' :: rest => return ([d], rest)
      | _ => none

def readPairs : Nat → Nat → Entries → List Char → Option (Entries × List Char)
  | 0, _, _, _ => none
  | fuel + 1, room, es, cs => do
    let (key, rest) ← key? cs
    match rest with
    | '=' :: rest =>
      let (d, rest) ← readValue fuel room (skipSpace rest)
      let es ← setPair es key d
      match skipSpace rest with
      | ',' :: rest => readPairs fuel room es rest
      | '\x7d' :: rest => return (es, rest)
      | _ => none
    | _ => none

end

inductive Header where
  | table (path : List String)
  | element (path : List String)

/-- A part of a document: the pairs up to the next header. The first part has no header. -/
structure Section where
  header : Option Header
  pairs : List (List String × Datum)

def header? (cs : List Char) : Option (Header × List Char) :=
  match cs with
  | '[' :: rest => do
    let (path, rest) ← key? rest
    match rest with
    | ']' :: ']' :: rest => return (.element path, rest)
    | _ => none
  | rest => do
    let (path, rest) ← key? rest
    match rest with
    | ']' :: rest => return (.table path, rest)
    | _ => none

/-- Reads the lines of a document into parts. `current` is the part that the next pair belongs to,
with its pairs reversed. -/
def readLines : Nat → Section → List Char → Option (List Section)
  | 0, _, _ => none
  | fuel + 1, current, cs =>
    let closed : Section := { current with pairs := current.pairs.reverse }
    match skipSpace cs with
    | [] => some [closed]
    | '#' :: rest => do readLines fuel current (← lineEnd? ('#' :: rest))
    | '\n' :: rest => readLines fuel current rest
    | '\r' :: '\n' :: rest => readLines fuel current rest
    | '[' :: rest => do
      let (h, rest) ← header? rest
      let parts ← readLines fuel ⟨some h, []⟩ (← lineEnd? rest)
      return closed :: parts
    | cs => do
      let (key, rest) ← key? cs
      match rest with
      | '=' :: rest =>
        let (d, rest) ← readValue (rest.length + 1) depthLimit (skipSpace rest)
        readLines fuel { current with pairs := (key, d) :: current.pairs } (← lineEnd? rest)
      | _ => none

def setPairs (es : Entries) (pairs : List (List String × Datum)) : Option Entries :=
  pairs.foldlM (fun es (key, d) => setPair es key d) es

/-- Adds a part. A header may name a table that only longer names speak of so far, which then moves
behind its neighbours, or add an element to a list of tables. -/
def addSection (es : Entries) (part : Section) : Option Entries :=
  match part.header with
  | none => setPairs es part.pairs
  | some (.table path) => do
    let name ← path.getLast?
    within false (fun _ es => do
      let sub ← match es.find? name with
        | none => some []
        | some (.table true false sub) => some sub
        | _ => none
      return Keyed.putLast (Keyed.erase es name) name
        (.table false false (← setPairs sub part.pairs))) false path.dropLast es
  | some (.element path) => do
    let name ← path.getLast?
    within false (fun _ es => do
      let elements ← match es.find? name with
        | none => some []
        | some (.tables elements) => some elements
        | _ => none
      return es.putLast name (.tables (elements ++ [← setPairs [] part.pairs]))) false path.dropLast es

/-- The table that a document holds. A byte order mark in front does not count. -/
def read? (text : String) : Option Datum := do
  let cs := match text.toList with
    | '\ufeff' :: rest => rest
    | cs => cs
  let parts ← readLines (cs.length + 1) ⟨none, []⟩ cs
  let es ← parts.foldlM addSection []
  return .table (entriesData es)

end Permits.Toml
