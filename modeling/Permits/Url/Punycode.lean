import Permits.Text.Classes

namespace Permits.Url.Punycode

def digitChar (n : Nat) : Char :=
  if n < 26 then Char.ofNat (0x61 + n) else Char.ofNat (0x30 + (n - 26))

def digit? (c : Char) : Option Nat :=
  match Text.digit? c with
  | some n => some (n + 26)
  | none => if Text.isAsciiLetter c then some ((Text.asciiLower c).toNat - 0x61) else none

/-- The least digit that is not the last one, at the position `k` of a number. -/
def threshold (bias k : Nat) : Nat := max 1 (min 26 (k - bias))

/-- Scales a delta down; answers by how many positions, and what is left. -/
def shrink (delta k : Nat) : Nat × Nat :=
  if 455 < delta then shrink (delta / 35) (k + 36) else (k, delta)
termination_by delta

def adapt (delta points : Nat) (first : Bool) : Nat :=
  let delta := if first then delta / 700 else delta / 2
  let (k, delta) := shrink (delta + delta / points) 0
  k + 36 * delta / (delta + 38)

def deltaChars (bias k q : Nat) : List Char :=
  let t := threshold bias k
  if q < t then [digitChar q]
  else digitChar (t + (q - t) % (36 - t)) :: deltaChars bias (k + 36) ((q - t) / (36 - t))
termination_by q
decreasing_by
  have : 1 ≤ threshold bias k := Nat.le_max_left ..
  have := Nat.div_le_self (q - threshold bias k) (36 - threshold bias k)
  omega

/-- What is known while characters are placed in increasing order: the place reached so far is that
before the character `next`, with `placed` characters placed. -/
structure State where
  next : Nat := 128
  delta : Nat := 0
  bias : Nat := 72
  placed : Nat
  first : Bool := true

def placeAll (n : Nat) : List Nat → State → State × List Char
  | [], s => (s, [])
  | c :: cs, s =>
    if c < n then placeAll n cs { s with delta := s.delta + 1 }
    else if c = n then
      let (t, out) := placeAll n cs
        { s with delta := 0, bias := adapt s.delta (s.placed + 1) s.first,
                 placed := s.placed + 1, first := false }
      (t, deltaChars s.bias 36 s.delta ++ out)
    else placeAll n cs s

def placeEach (text : List Nat) : List Nat → State → List Char
  | [], _ => []
  | n :: ns, s =>
    let s := { s with delta := s.delta + (n - s.next) * (s.placed + 1), next := n }
    let (s, out) := placeAll n text s
    out ++ placeEach text ns { s with delta := s.delta + 1, next := n + 1 }

def encode (cs : List Char) : List Char :=
  let basic := cs.filter Text.isAscii
  let others := (cs.filter (!Text.isAscii ·)).map Char.toNat
  let head := if basic.isEmpty then [] else basic ++ ['-']
  head ++ placeEach (cs.map Char.toNat) (others.eraseDups.mergeSort) { placed := basic.length }

/-- Reads one delta, with the weight `w` of its next digit. -/
def readDelta (bias : Nat) : Nat → Nat → Nat → List Char → Option (Nat × List Char)
  | _, _, _, [] => none
  | k, w, sum, c :: rest => do
    let d ← digit? c
    let t := threshold bias k
    if d < t then return (sum + d * w, rest)
    else readDelta bias (k + 36) (w * (36 - t)) (sum + d * w) rest

/-- Places characters until the text is used up; each takes a digit at least. -/
def placeBack : Nat → Nat → Nat → Nat → Bool → List Char → List Char → Option (List Char)
  | 0, _, _, _, _, _, _ => none
  | _ + 1, _, _, _, _, out, [] => some out
  | fuel + 1, n, i, bias, first, out, cs => do
    let (delta, rest) ← readDelta bias 36 1 0 cs
    let size := out.length + 1
    let n := n + (i + delta) / size
    let place := (i + delta) % size
    if 0x10FFFF < n ∨ (0xD800 ≤ n ∧ n < 0xE000) then none
    placeBack fuel n (place + 1) (adapt delta size first) false
      (out.take place ++ Char.ofNat n :: out.drop place) rest

/-- The text that was encoded. A hyphen in front of everything else ends no characters and is not a
digit. -/
def decode? (cs : List Char) : Option (List Char) :=
  let (basic, rest) := match cs.reverse.span (· ≠ '-') with
    | (_, []) => ([], cs)
    | (_, [_]) => ([], cs)
    | (tail, _ :: head) => (head.reverse, tail.reverse)
  if basic.all Text.isAscii then placeBack (rest.length + 1) 128 0 72 true basic rest else none

end Permits.Url.Punycode
