import Permits.Json.Value
import Permits.Number.Shortest
import Permits.Text.Hex

namespace Permits.Json

open Number (Numeral)

def numeralChars : Numeral → List Char
  | .whole n => (toString n).toList
  | .double d => d.chars

/-- A character inside a JSON string: quotes, backslashes and controls are escaped, all else stands
as it is. -/
def escape (c : Char) : List Char :=
  if c = '"' then ['\\', '"']
  else if c = '\\' then ['\\', '\\']
  else if c.toNat < 0x20 then
    if c = '\n' then ['\\', 'n']
    else if c = '\r' then ['\\', 'r']
    else if c = '\t' then ['\\', 't']
    else if c.toNat = 8 then ['\\', 'b']
    else if c.toNat = 12 then ['\\', 'f']
    else '\\' :: 'u' :: Text.hex4 c.toNat
  else [c]

def stringChars (s : String) : List Char := '"' :: s.toList.flatMap escape ++ ['"']

mutual

/-- The compact text: no blanks. -/
def chars : Json → List Char
  | .null => "null".toList
  | .bool b => (if b then "true" else "false").toList
  | .number n => numeralChars n
  | .string s => stringChars s
  | .array items => '[' :: itemChars items ++ [']']
  | .object members => '\x7b' :: memberChars members ++ ['\x7d']

def itemChars : List Json → List Char
  | [] => []
  | [v] => chars v
  | v :: rest => chars v ++ ',' :: itemChars rest

def memberChars : List (String × Json) → List Char
  | [] => []
  | [(k, v)] => stringChars k ++ ':' :: chars v
  | (k, v) :: rest => stringChars k ++ ':' :: chars v ++ ',' :: memberChars rest

end

def compact (v : Json) : String := String.ofList v.chars

/-- A new line at the given depth, two blanks for each level. -/
def lineBreak (depth : Nat) : List Char := '\n' :: List.replicate (2 * depth) ' '

mutual

/-- The text over several lines; empty lists and objects stay on one. -/
def prettyChars (depth : Nat) : Json → List Char
  | .array (v :: rest) =>
    '[' :: prettyItems (depth + 1) (v :: rest) ++ lineBreak depth ++ [']']
  | .object ((k, v) :: rest) =>
    '\x7b' :: prettyMembers (depth + 1) ((k, v) :: rest) ++ lineBreak depth ++ ['\x7d']
  | .array [] => ['[', ']']
  | .object [] => ['\x7b', '\x7d']
  | .null => chars .null
  | .bool b => chars (.bool b)
  | .number n => numeralChars n
  | .string s => stringChars s

def prettyItems (depth : Nat) : List Json → List Char
  | [] => []
  | [v] => lineBreak depth ++ prettyChars depth v
  | v :: rest => lineBreak depth ++ prettyChars depth v ++ ',' :: prettyItems depth rest

def prettyMembers (depth : Nat) : List (String × Json) → List Char
  | [] => []
  | [(k, v)] => lineBreak depth ++ stringChars k ++ ':' :: ' ' :: prettyChars depth v
  | (k, v) :: rest =>
    lineBreak depth ++ stringChars k ++ ':' :: ' ' :: prettyChars depth v ++
      ',' :: prettyMembers depth rest

end

def pretty (v : Json) : String := String.ofList (prettyChars 0 v)

end Permits.Json
