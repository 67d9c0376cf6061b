import Permits.Number.Power

namespace Permits.Number

/-- A finite binary number of double precision, `significand * 2 ^ exponent`. A zero keeps its sign.
Values made by this module have at most 53 bits and the smallest exponent that allows them. -/
structure Double where
  negative : Bool
  significand : Nat
  exponent : Int
  deriving DecidableEq, Repr

namespace Double

def zero : Double := ⟨false, 0, -1074⟩

def isZero (d : Double) : Bool := d.significand == 0

def neg (d : Double) : Double := { d with negative := !d.negative }

/-- The quotient to the nearest whole number; a half goes to the even neighbour. -/
def divEven (num den : Nat) : Nat :=
  let q := num / den
  let twice := 2 * (num % den)
  if den < twice ∨ (twice = den ∧ q % 2 = 1) then q + 1 else q

def scaled (num den : Nat) (e : Int) : Nat :=
  if 0 ≤ e then divEven num (den * twoPow e.toNat) else divEven (num * twoPow (-e).toNat) den

/-- The least exponent, from -1074 on, at which `num / den` needs no more than 53 bits before the
point. -/
def fitting (num den : Nat) : Int :=
  let e : Int := num.log2 - den.log2 - 53
  let whole := if 0 ≤ e then num / (den * twoPow e.toNat) else num * twoPow (-e).toNat / den
  max (-1074) (if whole < 0x20000000000000 then e else e + 1)

/-- The number nearest to `num / den`, or `none` if it is past the largest. -/
def ofRatio (num den : Nat) : Option Double :=
  if num = 0 then some zero
  else
    let e := fitting num den
    let m := scaled num den e
    let (m, e) := if m = 0x20000000000000 then (0x10000000000000, e + 1) else (m, e)
    if 971 < e then none else some ⟨false, m, e⟩

def ratio (d : Double) : Nat × Nat :=
  if 0 ≤ d.exponent then (d.significand * twoPow d.exponent.toNat, 1)
  else (d.significand, twoPow (-d.exponent).toNat)

def mul (x y : Double) : Option Double :=
  ofRatio (x.ratio.1 * y.ratio.1) (x.ratio.2 * y.ratio.2)

/-- The quotient of the magnitudes, rounded. A quotient below one half of the least positive number
is zero. -/
def div (x y : Double) : Option Double :=
  ofRatio (x.ratio.1 * y.ratio.2) (x.ratio.2 * y.ratio.1)

def ofNat (n : Nat) : Option Double := ofRatio n 1

end Double

end Permits.Number
