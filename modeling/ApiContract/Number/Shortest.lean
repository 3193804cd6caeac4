/-
# Shortest decimals

Of the decimals that read back as a given double the shortest is chosen, and of several
shortest the one nearest to the double.  The double is compared with the decimal grids of
one, two, … seventeen digits in exact arithmetic; the first grid with a point among the
numbers that round to the double wins.
-/
import ApiContract.Number.Double

namespace ApiContract.Number

/-- A decimal `digits · 10 ^ exponent`. -/
structure Decimal where
  /-- The digits, as a number. -/
  digits : Nat
  /-- The power of ten that scales them. -/
  exponent : Int
deriving DecidableEq, Repr

/-- A decimal without trailing zeros among its digits. -/
def Decimal.trim (d : Decimal) : Nat → Decimal
  | 0 => d
  | n + 1 => if d.digits % 10 = 0 then Decimal.trim ⟨d.digits / 10, d.exponent + 1⟩ n else d

/-- The numbers that round to a double, scaled to a common denominator. -/
structure Rounding where
  /-- The least number, or the bound below if the ends are left out. -/
  low : Nat
  /-- The double itself. -/
  middle : Nat
  /-- The greatest number, or the bound above if the ends are left out. -/
  high : Nat
  /-- Whether the ends round to the double as well. -/
  ends : Bool
  /-- The denominator of the three. -/
  scale : Nat

/-- The numbers that round to a positive finite double.  Below a power of two the
neighbour is only half as far away. -/
def roundingOf (p : Parts) : Rounding :=
  let half := if p.significand = Nat.pow 2 52 ∧ -1074 < p.exponent then 1 else 2
  let up := Nat.pow 2 (p.exponent - 2).toNat
  { low := (4 * p.significand - half) * up
    middle := 4 * p.significand * up
    high := (4 * p.significand + 2) * up
    ends := p.significand % 2 = 0
    scale := Nat.pow 2 (2 - p.exponent).toNat }

/-- Whether a number of units of `scale` rounds to the double. -/
def Rounding.contains (r : Rounding) (unit n : Nat) : Bool :=
  if r.ends then r.low ≤ n * unit && n * unit ≤ r.high
  else r.low < n * unit && n * unit < r.high

/-- The power of ten of the first digit of a positive number `n / d` that is at least
`10 ^ -350`. -/
def magnitudeOf (n d : Nat) : Int :=
  ((Nat.toDigits 10 (n * Nat.pow 10 350 / d)).length : Int) - 351

/-- The decimal of `count` digits nearest to the double among those that read back. -/
def Rounding.onGrid (r : Rounding) (count : Nat) : Option Decimal :=
  let e := magnitudeOf r.middle r.scale - count + 1
  let up := Nat.pow 10 (-e).toNat
  let unit := Nat.pow 10 e.toNat * r.scale
  let s : Rounding := { r with low := r.low * up, middle := r.middle * up, high := r.high * up }
  let below := s.middle / unit
  let above := below + 1
  let rest := s.middle - below * unit
  let belowNearer := 2 * rest < unit || (2 * rest = unit && below % 2 = 0)
  match s.contains unit below, s.contains unit above with
  | true, true => some ⟨if belowNearer then below else above, e⟩
  | true, false => some ⟨below, e⟩
  | false, true => some ⟨above, e⟩
  | false, false => none

/-- The shortest decimal that reads back as a positive finite double. -/
def shortest (x : Float) : Decimal :=
  let p := partsOf x
  let r := roundingOf p
  let found := (List.range 17).findSome? fun n => r.onGrid (n + 1)
  (found.getD ⟨p.significand, p.exponent⟩).trim 400

end ApiContract.Number
