namespace Permits

inductive FileError where
  | missing
  | isDirectory
  | notDirectory
  | nameTooLong
  /-- The name holds a NUL. -/
  | badName
  /-- The bytes are not UTF-8. -/
  | notText
  | other (text : String)
  deriving DecidableEq, Repr

def FileError.message : FileError → String
  | missing => "No such file or directory (os error 2)"
  | isDirectory => "Is a directory (os error 21)"
  | notDirectory => "Not a directory (os error 20)"
  | nameTooLong => "File name too long (os error 36)"
  | badName => "file name contained an unexpected NUL byte"
  | notText => "stream did not contain valid UTF-8"
  | other text => text

def textOf (bytes : ByteArray) : Except FileError String :=
  match String.fromUTF8? bytes with
  | some text => .ok text
  | none => .error .notText

inductive Entry where
  | file (bytes : ByteArray)
  | directory

/-- A directory with all that is known around it, by the parts of the paths that lead there: `..` in
front leads above it, and `/` in front starts from the top of all directories. -/
abbrev Directory := List (List String × Entry)

namespace Directory

/-- The directory itself, one above it, or the top of all directories. -/
def isAround (place : List String) : Bool := place.all (· = "..") || place = ["/"]

def entry? (d : Directory) (place : List String) : Option Entry :=
  if isAround place then some .directory else (List.find? (·.1 = place) d).map (·.2)

def above (place : List String) : List String :=
  if place = ["/"] then place
  else if place.all (· = "..") then ".." :: place
  else place.dropLast

/-- Follows a path part by part from the directory at `here`. The last part may be missing. -/
def follow (d : Directory) (here : List String) : List String → Except FileError (List String)
  | [] => .ok here
  | part :: rest =>
    match d.entry? here with
    | some .directory =>
      if 255 < part.utf8ByteSize then .error .nameTooLong
      else if part = "." then d.follow here rest
      else if part = ".." then d.follow (above here) rest
      else d.follow (here ++ [part]) rest
    | some (.file _) => .error .notDirectory
    | none => .error .missing

/-- The parts of a usable path. A slash in front is a part of its own. -/
def parts (path : String) : Except FileError (List String) :=
  if path.toList.any (·.toNat = 0) then .error .badName
  else if path = "" then .error .missing
  else if 4096 ≤ path.utf8ByteSize then .error .nameTooLong
  else .ok ((if path.startsWith "/" then ["/"] else []) ++ (path.splitOn "/").filter (· ≠ ""))

/-- Reads a file. A slash at the end of the path asks for a directory. -/
def read (d : Directory) (path : String) : Except FileError ByteArray := do
  let names ← parts path
  let place ← d.follow [] (if path.endsWith "/" then names ++ ["."] else names)
  match d.entry? place with
  | some (.file bytes) => return bytes
  | some .directory => throw .isDirectory
  | none => throw .missing

def put (d : Directory) (place : List String) (bytes : ByteArray) : Directory :=
  d.filter (·.1 ≠ place) ++ [(place, .file bytes)]

/-- Writes a file into a directory that is there. A name with a slash at the end is taken for a
directory before it is looked up. -/
def write (d : Directory) (path : String) (bytes : ByteArray) : Except FileError Directory := do
  let names ← parts path
  if path.endsWith "/" then
    let named := names.getLast? ≠ some "." ∧ names.getLast? ≠ some ".."
    let _ ← d.follow [] ((if named then names.dropLast else names) ++ ["."])
    throw .isDirectory
  else
    let place ← d.follow [] names
    match d.entry? place with
    | some .directory => throw .isDirectory
    | _ => return d.put place bytes

end Directory

end Permits
