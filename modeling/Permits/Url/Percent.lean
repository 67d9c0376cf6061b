import Permits.Text.Classes
import Permits.Text.Hex

namespace Permits.Url

/-- Three characters for a byte: a percent sign and two hexadecimal digits. -/
def percentByte (b : UInt8) : List Char :=
  ['%', Text.hexUpperChar (b.toNat / 16), Text.hexUpperChar (b.toNat % 16)]

def percentChar (c : Char) : List Char := (String.singleton c).toUTF8.toList.flatMap percentByte

def isOutside (c : Char) : Bool := c.toNat < 0x20 || 0x7F ≤ c.toNat

def inFragment (c : Char) : Bool := isOutside c || c ∈ [' ', '"', '<', '>', '\x60']

def inPath (c : Char) : Bool := inFragment c || c ∈ ['#', '?', '\x7b', '\x7d']

def inUserinfo (c : Char) : Bool :=
  inPath c || c ∈ ['/', ':', ';', '=', '@', '[', '\\', ']', '^', '|']

/-- Characters that are encoded inside one segment of a path. -/
def inSegment (special : Bool) (c : Char) : Bool :=
  inPath c || c = '/' || c = '%' || (special && c = '\\')

def inQuery (special : Bool) (c : Char) : Bool :=
  isOutside c || c ∈ [' ', '"', '#', '<', '>'] || (special && c = '\'')

def encode (set : Char → Bool) (cs : List Char) : List Char :=
  cs.flatMap fun c => if set c then percentChar c else [c]

/-- The bytes that a text stands for. A percent sign without two digits stands for itself. -/
def decode : List Char → List UInt8
  | [] => []
  | '%' :: a :: b :: rest =>
    match Text.hexDigit? a, Text.hexDigit? b with
    | some m, some n => (16 * m + n).toUInt8 :: decode rest
    | _, _ => '%'.toUInt8 :: decode (a :: b :: rest)
  | c :: rest => (String.singleton c).toUTF8.toList ++ decode rest

end Permits.Url
