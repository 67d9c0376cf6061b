import Permits.Number.Double
import Permits.Text.Classes

namespace Permits.Number

inductive Numeral where
  | whole (value : Int)
  | double (value : Double)
  deriving DecidableEq, Repr

/-- A number as it is written. Digits stand most significant first; an exponent has a sign and
digits. -/
structure Literal where
  negative : Bool
  whole : List Nat
  fraction : Option (List Nat)
  power : Option (Bool × List Nat)

namespace Literal

def absorb (n : Nat) : List Nat → Nat × Nat
  | [] => (n, 0)
  | d :: ds => if 10 * n + d < 0x10000000000000000 then absorb (10 * n + d) ds else (n, ds.length + 1)

/-- `f / 10 ^ k`, in steps of at most `10 ^ 308`, each rounded. -/
def shrink (k : Nat) (f : Double) : Double :=
  let tenth (j : Nat) : Double := ((Double.ofNat (tenPow j)).bind f.div).getD Double.zero
  if k ≤ 308 then tenth k
  else if f.isZero then f
  else shrink (k - 308) (tenth 308)
termination_by k

/-- `n * 10 ^ e` by one rounded product or quotient of doubles; `none` past the largest. The result
can miss the nearest double by a unit in the last place. -/
def scale (n : Nat) (e : Int) : Option Double := do
  let f ← Double.ofNat n
  if e < 0 then return shrink (-e).toNat f
  else if f.isZero then return f
  else if 308 < e then none
  else (Double.ofNat (tenPow e.toNat)).bind f.mul

def signed (l : Literal) (d : Double) : Double := if l.negative then d.neg else d

/-- The value. Digits past the nineteenth or twentieth only shift it. -/
def value (l : Literal) : Option Numeral :=
  let (n, dropped) := absorb 0 l.whole
  match l.fraction, l.power with
  | none, none =>
    if dropped = 0 then
      if !l.negative then some (.whole n)
      else if n = 0 ∨ 0x8000000000000000 < n then (Double.ofNat n).map fun d => .double d.neg
      else some (.whole (-n))
    else (scale n dropped).map fun d => .double (l.signed d)
  | fraction, power =>
    let ds := fraction.getD []
    let (n, left) := absorb n ds
    let e : Int := dropped - (ds.length - left : Nat)
    match power with
    | none => (scale n e).map fun d => .double (l.signed d)
    | some (down, es) =>
      let p := Text.ofDigits es
      if 0x80000000 ≤ p then
        if n = 0 ∨ down then some (.double (l.signed Double.zero)) else none
      else
        let e := if down then e - p else e + p
        (scale n e).map fun d => .double (l.signed d)

end Literal

end Permits.Number
