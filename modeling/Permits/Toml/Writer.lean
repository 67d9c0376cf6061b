import Permits.Data.Setting
import Permits.Text.Hex
import Permits.Toml.Text

namespace Permits.Toml

inductive StringForm where
  /-- On one line, with escapes. -/
  | basic
  /-- On one line, as it is. -/
  | literal
  /-- Over several lines, with escapes. -/
  | multiBasic
  /-- Over several lines, as it is. -/
  | multiLiteral
  deriving DecidableEq, Repr

def needsEscape (c : Char) : Bool :=
  (c.toNat < 0x20 && c ≠ '\t' && c ≠ '\n') || c.toNat = 0x7F

/-- The length of the longest run of a character; `here` is the length of the run so far. -/
def longestRun (q : Char) (here : Nat) : List Char → Nat
  | [] => here
  | c :: cs => if c = q then longestRun q (here + 1) cs else max here (longestRun q 0 cs)

/-- The first form that needs no escape but that of the tab, else one that escapes. -/
def stringForm (cs : List Char) : StringForm :=
  let plain := !cs.any needsEscape
  let oneLine := !cs.contains '\n'
  if plain && oneLine && !cs.contains '\\' && !cs.contains '"' then .basic
  else if plain && oneLine && !cs.contains '\'' then .literal
  else if plain && !cs.contains '\\' && longestRun '"' 0 cs ≤ 2 then .multiBasic
  else if plain && longestRun '\'' 0 cs ≤ 2 then .multiLiteral
  else if oneLine then .basic
  else .multiBasic

def escaped (multi : Bool) (c : Char) : List Char :=
  if c = '\\' then ['\\', '\\']
  else if c = '\n' then if multi then ['\n'] else ['\\', 'n']
  else if c = '\t' then ['\\', 't']
  else if c = '\r' then ['\\', 'r']
  else if c.toNat = 8 then ['\\', 'b']
  else if c.toNat = 12 then ['\\', 'f']
  else if c.toNat < 0x20 ∨ c.toNat = 0x7F then '\\' :: 'u' :: Text.hexUpper4 c.toNat
  else [c]

/-- The inside of a form that escapes. After `bare` quotes in a row the next one is escaped. -/
def escapedChars (multi : Bool) (bare : Nat) : Nat → List Char → List Char
  | _, [] => []
  | run, c :: cs =>
    if c = '"' then
      if run = bare then '\\' :: '"' :: escapedChars multi bare 0 cs
      else '"' :: escapedChars multi bare (run + 1) cs
    else escaped multi c ++ escapedChars multi bare 0 cs

/-- Several lines begin below the opening quotes. -/
def opening (cs : List Char) : List Char := if cs.contains '\n' then ['\n'] else []

def stringChars (cs : List Char) : List Char :=
  match stringForm cs with
  | .basic => '"' :: escapedChars false 0 0 cs ++ ['"']
  | .literal => '\'' :: cs ++ ['\'']
  | .multiBasic => ['"', '"', '"'] ++ opening cs ++ escapedChars true 2 0 cs ++ ['"', '"', '"']
  | .multiLiteral => ['\'', '\'', '\''] ++ opening cs ++ cs ++ ['\'', '\'', '\'']

def settingChars : Setting → List Char
  | .text s => stringChars s.toList
  | .whole n => Nat.toDigits 10 n
  | .flag b => (if b then "true" else "false").toList

def tableChars (t : SettingsTable) : List Char :=
  t.flatMap fun (k, s) => k.toList ++ [' ', '=', ' '] ++ settingChars s ++ ['\n']

def sectionChars (name : String) (t : SettingsTable) : List Char :=
  '[' :: name.toList ++ [']', '\n'] ++ tableChars t

/-- Tables under their headers, a blank line between them. -/
def write (sections : List (String × SettingsTable)) : String :=
  String.ofList (['\n'].intercalate (sections.map fun (name, t) => sectionChars name t))

end Permits.Toml
