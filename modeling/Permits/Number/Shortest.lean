import Permits.Number.Double

namespace Permits.Number.Double

structure Decimal where
  digits : Nat
  exponent : Int
  deriving DecidableEq, Repr

/-- The numbers between `low` and `high` over `den` read back as the double; the ends do if
`closed`. -/
structure Interval where
  low : Nat
  value : Nat
  high : Nat
  den : Nat
  closed : Bool

/-- The reals that round to the magnitude. Just below a power of two the doubles lie twice as
close. -/
def interval (d : Double) : Interval :=
  let m := 4 * d.significand
  let low := if d.significand = 0x10000000000000 ∧ -1074 < d.exponent then m - 1 else m - 2
  let e := d.exponent - 2
  let closed := d.significand % 2 == 0
  if 0 ≤ e then
    let k := twoPow e.toNat
    ⟨low * k, m * k, (m + 2) * k, 1, closed⟩
  else ⟨low, m, m + 2, twoPow (-e).toNat, closed⟩

def Interval.holds (i : Interval) (x : Decimal) : Bool :=
  let (num, den) :=
    if 0 ≤ x.exponent then (x.digits * tenPow x.exponent.toNat, 1)
    else (x.digits, tenPow (-x.exponent).toNat)
  if i.closed then i.low * den ≤ num * i.den && num * i.den ≤ i.high * den
  else i.low * den < num * i.den && num * i.den < i.high * den

def digitCount (n : Nat) : Nat := (Nat.toDigits 10 n).length

def leading (num den : Nat) : Int :=
  if den ≤ num then (digitCount (num / den) : Int) - 1
  else -(digitCount ((den + num - 1) / num - 1) : Int)

/-- The neighbours of the value among the multiples of `10 ^ e` that read back, the nearer first. -/
def Interval.onGrid (i : Interval) (e : Int) : List Decimal :=
  let (num, den) :=
    if 0 ≤ e then (i.value, i.den * tenPow e.toNat) else (i.value * tenPow (-e).toNat, i.den)
  let below := num / den
  let twice := 2 * (num % den)
  let first := if twice < den ∨ (twice = den ∧ below % 2 = 0) then [⟨below, e⟩, ⟨below + 1, e⟩]
    else [⟨below + 1, e⟩, ⟨below, e⟩]
  first.filter i.holds

/-- Drops zeros at the end; `fuel` bounds their number. -/
def Decimal.trim : Nat → Decimal → Decimal
  | 0, x => x
  | fuel + 1, x => if x.digits % 10 = 0 then trim fuel ⟨x.digits / 10, x.exponent + 1⟩ else x

/-- The fewest digits that read back as the magnitude, of these the nearest. -/
def shortest (d : Double) : Decimal :=
  let i := d.interval
  let top := leading i.value i.den
  match (List.range 17).findSome? fun (n : Nat) => (i.onGrid (top - n)).head? with
  | some x => x.trim 20
  | none => ⟨0, 0⟩

def zeros (n : Nat) : List Char := List.replicate n '0'

def exponentChars (e : Int) : List Char :=
  'e' :: (if 0 ≤ e then '+' else '-') :: Nat.toDigits 10 e.natAbs

/-- Positional from `10 ^ -5` up to `10 ^ 16`, otherwise with an exponent; a whole number keeps one
zero after the point. -/
def chars (d : Double) : List Char :=
  let sign := if d.negative then ['-'] else []
  if d.isZero then sign ++ ['0', '.', '0']
  else
    let x := d.shortest
    let ds := Nat.toDigits 10 x.digits
    let point := (ds.length : Int) + x.exponent
    sign ++
      if 0 ≤ x.exponent ∧ point ≤ 16 then ds ++ zeros x.exponent.toNat ++ ['.', '0']
      else if 0 < point ∧ point ≤ 16 then ds.take point.toNat ++ '.' :: ds.drop point.toNat
      else if -5 < point ∧ point ≤ 0 then '0' :: '.' :: zeros (-point).toNat ++ ds
      else
        let power := exponentChars (point - 1)
        match ds with
        | [c] => c :: power
        | c :: cs => c :: '.' :: cs ++ power
        | [] => power

end Permits.Number.Double
