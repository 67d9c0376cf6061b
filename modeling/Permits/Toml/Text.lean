import Permits.Text.Classes

namespace Permits.Toml

def isSpace (c : Char) : Bool := c = ' ' || c = '\t'

def skipSpace (cs : List Char) : List Char := cs.dropWhile isSpace

/-- Characters that may stand in comments: all but controls, of which the tab is allowed. -/
def isPlain (c : Char) : Bool :=
  c = '\t' || (0x20 ≤ c.toNat && c.toNat ≤ 0x7E) || 0x80 ≤ c.toNat

def newline? : List Char → Option (List Char)
  | '\n' :: rest => some rest
  | '\r' :: '\n' :: rest => some rest
  | _ => none

def skipGap (inComment : Bool) : List Char → List Char
  | [] => []
  | '\n' :: rest => skipGap false rest
  | '\r' :: '\n' :: rest => skipGap false rest
  | c :: rest =>
    if inComment then
      if isPlain c then skipGap true rest else c :: rest
    else if isSpace c then skipGap false rest
    else if c = '#' then skipGap true rest
    else c :: rest

/-- Skips what may stand between a statement and the end of its line. -/
def lineEnd? (cs : List Char) : Option (List Char) :=
  let rest := match skipSpace cs with
    | '#' :: rest => rest.dropWhile isPlain
    | rest => rest
  if rest.isEmpty then some [] else newline? rest

/-- The character of a number, unless it names half of a surrogate pair or none at all. -/
def scalar? (n : Nat) : Option Char := if h : n.isValidChar then some (Char.ofNatAux n h) else none

def hexNumber? (cs : List Char) : Option Nat :=
  (cs.mapM Text.hexDigit?).map fun ds => ds.foldl (fun n d => 16 * n + d) 0

def escape? : List Char → Option (Char × List Char)
  | 'u' :: a :: b :: c :: d :: rest => do
    return (← scalar? (← hexNumber? [a, b, c, d]), rest)
  | 'U' :: a :: b :: c :: d :: e :: f :: g :: h :: rest => do
    return (← scalar? (← hexNumber? [a, b, c, d, e, f, g, h]), rest)
  | 'b' :: rest => some ('\x08', rest)
  | 't' :: rest => some ('\t', rest)
  | 'n' :: rest => some ('\n', rest)
  | 'f' :: rest => some ('\x0c', rest)
  | 'r' :: rest => some ('\r', rest)
  | '"' :: rest => some ('"', rest)
  | '\\' :: rest => some ('\\', rest)
  | _ => none

def consing (c : Char) (found : Option (List Char × List Char)) : Option (List Char × List Char) :=
  found.map fun (s, rest) => (c :: s, rest)

/-- Reads a basic string after its opening quote. Each step takes a character at least. -/
def basic? : Nat → List Char → Option (List Char × List Char)
  | 0, _ => none
  | _ + 1, [] => none
  | fuel + 1, c :: rest =>
    if c = '"' then some ([], rest)
    else if c = '\\' then do
      let (e, rest) ← escape? rest
      consing e (basic? fuel rest)
    else if isPlain c then consing c (basic? fuel rest)
    else none

/-- A backslash at the end of a line joins it to the next character that is not blank. -/
def joinsLines (cs : List Char) : Bool := (newline? (skipSpace cs)).isSome

def isBreak (c : Char) : Bool := c = '\n' || c = '\r'

/-- Reads a basic string of several lines after its opening quotes. Up to two quotes may stand before
the closing three. -/
def multiBasic? : Nat → List Char → Option (List Char × List Char)
  | 0, _ => none
  | _ + 1, [] => none
  | fuel + 1, '\r' :: '\n' :: rest => consing '\n' (multiBasic? fuel rest)
  | _ + 1, '"' :: '"' :: '"' :: '"' :: '"' :: rest => some (['"', '"'], rest)
  | _ + 1, '"' :: '"' :: '"' :: '"' :: rest => some (['"'], rest)
  | _ + 1, '"' :: '"' :: '"' :: rest => some ([], rest)
  | fuel + 1, '\\' :: rest =>
    if joinsLines rest then multiBasic? fuel (skipGapLines rest)
    else do
      let (e, rest) ← escape? rest
      consing e (multiBasic? fuel rest)
  | fuel + 1, c :: rest =>
    if c = '\n' ∨ isPlain c then consing c (multiBasic? fuel rest) else none
where
  /-- Skips blanks and ends of lines. -/
  skipGapLines : List Char → List Char
    | '\n' :: rest => skipGapLines rest
    | '\r' :: '\n' :: rest => skipGapLines rest
    | ' ' :: rest => skipGapLines rest
    | '\t' :: rest => skipGapLines rest
    | cs => cs

def literal? : List Char → Option (List Char × List Char)
  | [] => none
  | c :: rest =>
    if c = '\'' then some ([], rest)
    else if isPlain c then consing c (literal? rest)
    else none

def multiLiteral? : List Char → Option (List Char × List Char)
  | [] => none
  | '\r' :: '\n' :: rest => consing '\n' (multiLiteral? rest)
  | '\'' :: '\'' :: '\'' :: '\'' :: '\'' :: rest => some (['\'', '\''], rest)
  | '\'' :: '\'' :: '\'' :: '\'' :: rest => some (['\''], rest)
  | '\'' :: '\'' :: '\'' :: rest => some ([], rest)
  | c :: rest =>
    if c = '\n' ∨ isPlain c then consing c (multiLiteral? rest) else none

/-- An end of line right after the opening quotes is not part of the string. -/
def skipFirstBreak (cs : List Char) : List Char := (newline? cs).getD cs

def string? : List Char → Option (String × List Char)
  | '"' :: '"' :: '"' :: rest =>
    (multiBasic? (rest.length + 1) (skipFirstBreak rest)).map fun (s, rest) => (.ofList s, rest)
  | '"' :: rest => (basic? (rest.length + 1) rest).map fun (s, rest) => (.ofList s, rest)
  | '\'' :: '\'' :: '\'' :: rest =>
    (multiLiteral? (skipFirstBreak rest)).map fun (s, rest) => (.ofList s, rest)
  | '\'' :: rest => (literal? rest).map fun (s, rest) => (.ofList s, rest)
  | _ => none

def isBareChar (c : Char) : Bool :=
  Text.isAsciiLetter c || (Text.digit? c).isSome || c = '_' || c = '-'

def keyPart? (cs : List Char) : Option (String × List Char) :=
  match cs with
  | '"' :: rest => (basic? (rest.length + 1) rest).map fun (s, rest) => (.ofList s, rest)
  | '\'' :: rest => (literal? rest).map fun (s, rest) => (.ofList s, rest)
  | _ =>
    let name := cs.takeWhile isBareChar
    if name.isEmpty then none else some (.ofList name, cs.dropWhile isBareChar)

def keyParts? : Nat → List Char → Option (List String × List Char)
  | 0, _ => none
  | fuel + 1, cs => do
    let (k, rest) ← keyPart? (skipSpace cs)
    match skipSpace rest with
    | '.' :: rest =>
      let (ks, rest) ← keyParts? fuel rest
      return (k :: ks, rest)
    | rest => return ([k], rest)

/-- How deep lists and tables may lie within each other, and the parts of a key. -/
def depthLimit : Nat := 79

/-- Reads a key of at most 79 parts and the blanks after it. -/
def key? (cs : List Char) : Option (List String × List Char) := keyParts? depthLimit cs

end Permits.Toml
