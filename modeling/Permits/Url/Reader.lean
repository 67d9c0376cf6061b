import Permits.Url.Basic

namespace Permits.Url

inductive Reading where
  | url (u : Url)
  | pathless

def scheme? (cs : List Char) : Option (List Char × List Char) :=
  let isPart (c : Char) : Bool :=
    Text.isAsciiLetter c || (Text.digit? c).isSome || c = '+' || c = '-' || c = '.'
  match cs.span isPart with
  | (c :: name, ':' :: rest) =>
    if Text.isAsciiLetter c then some ((c :: name).map Text.asciiLower, rest) else none
  | _ => none

def isSlash (special : Bool) (c : Char) : Bool := c = '/' || (special && c = '\\')

def cutLast (c : Char) (cs : List Char) : Option (List Char × List Char) :=
  match cs.reverse.span (· ≠ c) with
  | (_, []) => none
  | (tail, _ :: head) => some (head.reverse, tail.reverse)

/-- Writes user and password. An empty password is left out, and so is the sign after nothing. -/
def userinfoChars (cs : List Char) : List Char :=
  let (user, rest) := cs.span (· ≠ ':')
  let name := encode inUserinfo user
  match rest.drop 1 with
  | [] => if name.isEmpty then [] else name ++ ['@']
  | password => name ++ ':' :: encode inUserinfo password ++ ['@']

/-- Splits the port off: the first colon outside of brackets is in front of it. -/
def cutPort (inBrackets : Bool) : List Char → List Char × List Char
  | [] => ([], [])
  | c :: cs =>
    if c = ':' ∧ !inBrackets then ([], c :: cs)
    else
      let (host, rest) := cutPort (if c = '[' then true else if c = ']' then false else inBrackets) cs
      (c :: host, rest)

/-- Reads a port after its colon. A backslash ends it. -/
def readPort (scheme cs : List Char) : Except UrlError (Option Nat × List Char) :=
  let (digits, rest) := cs.span fun c => (Text.digit? c).isSome
  let n := Text.ofDigits (digits.filterMap Text.digit?)
  if 0x10000 ≤ n then .error .badPort
  else if rest.isEmpty ∨ rest.head? = some '\\' then
    .ok (if digits.isEmpty ∨ some n = defaultPort? scheme then none else some n, rest)
  else .error .badPort

def readAuthority (scheme cs : List Char) : Except UrlError (Authority × List Char) := do
  let special := isSpecial scheme
  let (userinfo, cs) := match cutLast '@' cs with
    | some (before, after) => (userinfoChars before, after)
    | none => ([], cs)
  let (name, rest) := cutPort false cs
  if name.isEmpty ∧ (special ∨ !rest.isEmpty ∨ !userinfo.isEmpty) then throw .emptyHost
  let host ← if special then readHost name else readPlainHost name
  match rest with
  | [] => return (⟨userinfo, host, none⟩, [])
  | _ :: rest =>
    let (port, rest) ← readPort scheme rest
    return (⟨userinfo, host, port⟩, rest)

/-- The machine that a file without a host lies on. -/
def thisMachine : Authority := { host := .domain [] }

def readFileAuthority (cs : List Char) : Except UrlError Authority := do
  if cs.isEmpty then return thisMachine
  match ← readHost cs with
  | .domain ['l', 'o', 'c', 'a', 'l', 'h', 'o', 's', 't'] => return thisMachine
  | host => return { host }

def dots : List (List Char) := [['.'], ['%', '2', 'e'], ['%', '2', 'E']]

def isDot (segment : List Char) : Bool := segment ∈ dots

def isDoubleDot (segment : List Char) : Bool := dots.any fun a => dots.any fun b => segment = a ++ b

def splitPath (special : Bool) (cs : List Char) : List (List Char) :=
  cs.splitOnP (isSlash special)

/-- Walks along the segments: a dot stays, two dots go up. At the start of the path of a file, a drive
is written with a colon. -/
def walk (file : Bool) (done : List (List Char)) : List (List Char) → List (List Char)
  | [] => done
  | segment :: rest =>
    if isDoubleDot segment then
      walk file (if rest.isEmpty then leave done ++ [[]] else leave done) rest
    else if isDot segment then walk file (if rest.isEmpty then done ++ [[]] else done) rest
    else
      let written := if file && done.isEmpty && isDrive segment then segment.take 1 ++ [':']
        else encode inPath segment
      walk file (done ++ [written]) rest

/-- Reads a path. A special URL always has one. -/
def readPath (scheme cs : List Char) : List (List Char) :=
  let special := isSpecial scheme
  match cs with
  | [] => if special then [[]] else []
  | c :: rest =>
    walk (isFile scheme) [] (splitPath special (if isSlash special c then rest else c :: rest))

def readRest (scheme : List Char) (authority : Option Authority) (cs : List Char) : Url :=
  let (before, fragment) := cs.span (· ≠ '#')
  let (path, query) := before.span (· ≠ '?')
  { scheme, authority
    path := readPath scheme path
    query := if query.isEmpty then none
      else some (encode (inQuery (isSpecial scheme)) (query.drop 1))
    fragment := if fragment.isEmpty then none else some (encode inFragment (fragment.drop 1)) }

/-- The path of a file without the empty segments in front. -/
def trimFront (path : List (List Char)) : List (List Char) :=
  match path.dropWhile (·.isEmpty) with
  | [] => [[]]
  | path => path

/-- Reads the path of a file, and what follows it. A path that starts at a drive has no host. -/
def readFile (scheme : List Char) (host : Authority) (cs : List Char) : Url :=
  let u := readRest scheme (some host) cs
  { u with
    authority := some (if u.path.head?.any isDrive then thisMachine else host)
    path := trimFront u.path }

/-- Reads what follows the slashes in front of an authority. The name of a drive is no host. -/
def readWithAuthority (scheme cs : List Char) : Except UrlError Reading := do
  let special := isSpecial scheme
  let (authority, rest) := cs.span fun c => !(isSlash special c || c = '?' || c = '#')
  if isFile scheme then
    if isDrive authority then return .url (readFile scheme thisMachine (authority ++ rest))
    else return .url (readFile scheme (← readFileAuthority authority) rest)
  if authority = ['@'] ∧ !rest.isEmpty then throw .emptyHost
  let (authority, more) ← readAuthority scheme authority
  return .url (readRest scheme (some authority) (more ++ rest))

def readAfterScheme (scheme cs : List Char) : Except UrlError Reading :=
  let slash := isSlash (isSpecial scheme)
  if isSpecial scheme ∧ !isFile scheme then readWithAuthority scheme (cs.dropWhile slash)
  else
    match (cs.takeWhile slash).length, isFile scheme with
    | 0, true => .ok (.url (readFile scheme thisMachine cs))
    | 0, false => .ok .pathless
    | 1, true => .ok (.url (readFile scheme thisMachine cs))
    | 1, false => .ok (.url (readRest scheme none cs))
    | _, _ => readWithAuthority scheme (cs.drop 2)

/-- Reads a URL. Blanks and controls around it, and tabs and ends of lines in it, do not count. -/
def read (s : String) : Except UrlError Reading :=
  let isEdge (c : Char) : Bool := c.toNat ≤ 0x20
  let trimmed := ((s.toList.dropWhile isEdge).reverse.dropWhile isEdge).reverse
  match scheme? (trimmed.filter (!isIgnored ·)) with
  | none => .error .relative
  | some (scheme, rest) => readAfterScheme scheme rest

end Permits.Url
