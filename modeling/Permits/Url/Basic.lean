import Permits.Url.Host

namespace Permits.Url

def defaultPort? : List Char → Option Nat
  | ['h', 't', 't', 'p'] => some 80
  | ['h', 't', 't', 'p', 's'] => some 443
  | ['w', 's'] => some 80
  | ['w', 's', 's'] => some 443
  | ['f', 't', 'p'] => some 21
  | _ => none

def isFile (scheme : List Char) : Bool := scheme = ['f', 'i', 'l', 'e']

/-- Special schemes have a host and a path, and take a backslash for a slash. -/
def isSpecial (scheme : List Char) : Bool := isFile scheme || (defaultPort? scheme).isSome

/-- What stands between the scheme and the path. A default port is not named. -/
structure Authority where
  /-- User and password as they are written, with the sign that ends them. -/
  userinfo : List Char := []
  host : Host
  port : Option Nat := none
  deriving DecidableEq, Repr

end Url

open Url

/-- A URL below which others can lie. The segments of the path, the query and the fragment are
encoded. -/
structure Url where
  scheme : List Char
  authority : Option Authority
  path : List (List Char)
  query : Option (List Char) := none
  fragment : Option (List Char) := none
  deriving DecidableEq, Repr

namespace Url

def isSpecialUrl (u : Url) : Bool := isSpecial u.scheme

def Authority.chars (a : Authority) : List Char :=
  a.userinfo ++ a.host.chars ++ (a.port.map fun n => ':' :: Nat.toDigits 10 n).getD []

def pathChars (path : List (List Char)) : List Char := path.flatMap ('/' :: ·)

/-- Path and query, as a request names what it asks for. -/
def target (u : Url) : String :=
  let path := if u.path.isEmpty then ['/'] else pathChars u.path
  String.ofList (path ++ (u.query.map ('?' :: ·)).getD [])

def text (u : Url) : String :=
  let path := pathChars u.path
  let front := match u.authority with
    | some a => '/' :: '/' :: a.chars
    | none => if u.path.length ≥ 2 ∧ u.path.head? = some [] then ['/', '.'] else []
  String.ofList (u.scheme ++ ':' :: front ++ path ++ (u.query.map ('?' :: ·)).getD [] ++
    (u.fragment.map ('#' :: ·)).getD [])

def isIgnored (c : Char) : Bool := c = '\t' || c = '\n' || c = '\r'

/-- A segment that names a drive: a letter with a colon or a bar. -/
def isDrive : List Char → Bool
  | [letter, sign] => Text.isAsciiLetter letter && (sign = ':' || sign = '|')
  | _ => false

def leave (path : List (List Char)) : List (List Char) :=
  if path.getLast?.any isDrive then path else path.dropLast

/-- Adds a segment to a path. Tabs and ends of lines in it do not count. The names of the directory
itself and of the one above it are skipped; what only becomes such a name without its tabs acts as
that name. -/
def pushSegment (special : Bool) (path : List (List Char)) (segment : List Char) :
    List (List Char) :=
  if segment = ['.'] ∨ segment = ['.', '.'] then path
  else
    let base := if path = [[]] then [] else path
    match segment.filter (!isIgnored ·) with
    | ['.'] => base ++ [[]]
    | ['.', '.'] => leave base ++ [[]]
    | cs => base ++ [encode (inSegment special) cs]

def dropEmptyEnd (path : List (List Char)) : List (List Char) :=
  if 2 ≤ path.length ∧ path.getLast? = some [] then path.dropLast else path

/-- The URL that lies below another one by some segments. -/
def below (u : Url) (segments : List String) : Url :=
  let path := (segments.map String.toList).foldl (pushSegment u.isSpecialUrl) (dropEmptyEnd u.path)
  { u with path }

end Url

end Permits
