import Permits.Url.Name
import Permits.Url.Percent

namespace Permits.Url

inductive UrlError where
  | relative
  | emptyHost
  | badDomain
  | badHostCharacter
  | badIpv4
  | badIpv6
  | badPort
  deriving DecidableEq, Repr

def UrlError.message : UrlError → String
  | relative => "relative URL without a base"
  | emptyHost => "empty host"
  | badDomain => "invalid international domain name"
  | badHostCharacter => "invalid domain character"
  | badIpv4 => "invalid IPv4 address"
  | badIpv6 => "invalid IPv6 address"
  | badPort => "invalid port number"

inductive Host where
  | domain (name : List Char)
  | ipv4 (address : Nat)
  /-- Eight numbers of 16 bits. -/
  | ipv6 (groups : List Nat)
  deriving DecidableEq, Repr

/-- A part of an address in decimal, or in octal after `0`, or in hexadecimal after `0x`. -/
def ipv4Part? (cs : List Char) : Option Nat :=
  let digits (base : Nat) (ds : List Char) : Option Nat :=
    ds.foldlM (fun n c => (Text.hexDigit? c).bind fun d =>
      if d < base then some (base * n + d) else none) 0
  match cs with
  | [] => none
  | '0' :: 'x' :: ds => digits 16 ds
  | '0' :: 'X' :: ds => digits 16 ds
  | '0' :: ds => digits 8 ds
  | ds => digits 10 ds

def splitDots (cs : List Char) : List (List Char) := cs.splitOn '.'

def domainParts (cs : List Char) : List (List Char) :=
  match (splitDots cs).reverse with
  | [] :: rest => rest.reverse
  | rest => rest.reverse

/-- A name whose last part is a number can only be an address. -/
def endsInNumber (cs : List Char) : Bool :=
  match (domainParts cs).getLast? with
  | none => false
  | some part =>
    (!part.isEmpty && part.all fun c => (Text.digit? c).isSome) || (ipv4Part? part).isSome

/-- Puts the parts together: the last one fills all bytes that are left. -/
def ipv4? (cs : List Char) : Option Nat := do
  let parts ← (domainParts cs).mapM ipv4Part?
  let last ← parts.getLast?
  let front := parts.dropLast
  if 3 < front.length ∨ 0x100000000 >>> (8 * front.length) ≤ last ∨ front.any (255 < ·) then none
  return front.zipIdx.foldl (fun n (p, i) => n + p <<< (8 * (3 - i))) last

def group? (cs : List Char) : Option Nat :=
  if cs.isEmpty ∨ 4 < cs.length then none
  else cs.foldlM (fun n c => (Text.hexDigit? c).map fun d => 16 * n + d) 0

def byte? (cs : List Char) : Option Nat := do
  if cs.isEmpty ∨ 3 < cs.length ∨ (cs.head? = some '0' ∧ cs.length ≠ 1) then none
  let n := Text.ofDigits (← cs.mapM Text.digit?)
  if n ≤ 255 then some n else none

/-- Groups with colons between them; four bytes may stand for the last two. -/
def groups? : List (List Char) → Option (List Nat)
  | [] => some []
  | [part] =>
    if part.contains '.' then do
      match ← (splitDots part).mapM byte? with
      | [a, b, c, d] => some [256 * a + b, 256 * c + d]
      | _ => none
    else (group? part).map ([·])
  | part :: rest => do
    let n ← group? part
    return n :: (← groups? rest)

def cutDouble : List Char → Option (List Char × List Char)
  | [] => none
  | ':' :: ':' :: rest => some ([], rest)
  | c :: rest => (cutDouble rest).map fun (before, after) => (c :: before, after)

def side? (cs : List Char) : Option (List Nat) :=
  if cs.isEmpty then some [] else groups? (cs.splitOn ':')

/-- A double colon stands for one or more groups of zero. -/
def ipv6? (cs : List Char) : Option (List Nat) := do
  match cutDouble cs with
  | none =>
    let gs ← side? cs
    if gs.length = 8 then some gs else none
  | some (before, after) =>
    if before.contains '.' then none
    let front ← side? before
    let back ← side? after
    if front.length + back.length ≤ 7 then
      some (front ++ List.replicate (8 - front.length - back.length) 0 ++ back)
    else none

/-- The first position of the longest run of zeros with its length, the run at `start` being `here`
long so far. -/
def longestZeros (start here : Nat) : List Nat → Nat × Nat
  | [] => (start, here)
  | g :: gs =>
    if g = 0 then longestZeros start (here + 1) gs
    else
      let later := longestZeros (start + here + 1) 0 gs
      if later.2 ≤ here then (start, here) else later

def groupChars (gs : List Nat) : List Char := [':'].intercalate (gs.map (Nat.toDigits 16))

/-- The longest run of two or more zeros is left out. -/
def ipv6Chars (gs : List Nat) : List Char :=
  let (start, length) := longestZeros 0 0 gs
  if length < 2 then groupChars gs
  else groupChars (gs.take start) ++ [':', ':'] ++ groupChars (gs.drop (start + length))

def readIpv6 (cs : List Char) : Except UrlError Host :=
  if cs.getLast? = some ']' then
    match ipv6? (cs.drop 1).dropLast with
    | some gs => .ok (.ipv6 gs)
    | none => .error .badIpv6
  else .error .badIpv6

def readHost (cs : List Char) : Except UrlError Host :=
  if cs.head? = some '[' then readIpv6 cs
  else
    match (String.fromUTF8? ⟨(decode cs).toArray⟩).bind fun s => Name.ascii? s.toList with
    | none => .error .badDomain
    | some [] => .error .emptyHost
    | some name =>
      if endsInNumber name then
        match ipv4? name with
        | some address => .ok (.ipv4 address)
        | none => .error .badIpv4
      else .ok (.domain name)

def readPlainHost (cs : List Char) : Except UrlError Host :=
  if cs.head? = some '[' then readIpv6 cs
  else if cs.any (· ∈ ['\x00', '\t', '\n', '\r', ' ', '#', '/', ':', '<', '>', '?', '@', '[', '\\',
      ']', '^', '|']) then .error .badHostCharacter
  else .ok (.domain (encode isOutside cs))

def Host.chars : Host → List Char
  | domain name => name
  | ipv4 n =>
    ['.'].intercalate ([n / 0x1000000, n / 0x10000 % 256, n / 256 % 256, n % 256].map (Nat.toDigits 10))
  | ipv6 gs => '[' :: ipv6Chars gs ++ [']']

end Permits.Url
