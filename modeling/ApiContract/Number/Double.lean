/-
# Double-precision numbers as exact numbers

A finite double is `± significand · 2 ^ exponent`.  Questions about whole numbers,
remainders and conversions are answered on that form in exact arithmetic.
-/

namespace ApiContract.Number

/-- A finite double, taken apart. -/
structure Parts where
  /-- Whether the sign bit is set. -/
  negative : Bool
  /-- The significand, below `2 ^ 53`. -/
  significand : Nat
  /-- The power of two that scales it. -/
  exponent : Int
deriving DecidableEq, Repr

/-- The parts of a double; the result is meaningful for finite ones only. -/
def partsOf (x : Float) : Parts :=
  let bits := x.toBits.toNat
  let field := bits / Nat.pow 2 52 % 2048
  let fraction := bits % Nat.pow 2 52
  { negative := bits / Nat.pow 2 63 = 1
    significand := if field = 0 then fraction else Nat.pow 2 52 + fraction
    exponent := (max field 1 : Nat) - (1075 : Int) }

/-- Whether the sign bit of a double is set. -/
def signBit (x : Float) : Bool :=
  x.toBits.toNat / Nat.pow 2 63 = 1

/-- The value of not being a number. -/
def notANumber : Float := 0 / 0

/-- Positive infinity. -/
def infinity : Float := 1 / 0

/-- A double with its sign chosen. -/
def withSign (negative : Bool) (x : Float) : Float :=
  if negative then -x else x

/-- The double nearest to an integer. -/
def ofInteger (n : Int) : Float :=
  withSign (n < 0) (Float.ofScientific n.natAbs false 0)

/-- Whether a double has no fractional part; infinities and non-numbers do have one. -/
def isWhole (x : Float) : Bool :=
  x.isFinite &&
    let p := partsOf x
    0 ≤ p.exponent || p.significand % Nat.pow 2 p.exponent.natAbs = 0

/-- Whether truncation leaves a double as it is; this holds of the infinities too. -/
def isTruncated (x : Float) : Bool :=
  isWhole x || x.isInf

/-- The absolute value of a finite double without its fractional part. -/
def truncation (x : Float) : Nat :=
  let p := partsOf x
  if 0 ≤ p.exponent then p.significand * Nat.pow 2 p.exponent.toNat
  else p.significand / Nat.pow 2 p.exponent.natAbs

/-- Whether the remainder of a division of doubles differs from zero.  Without a remainder,
as for an infinite dividend, it does; an infinite divisor leaves the dividend. -/
def hasRemainder (x y : Float) : Bool :=
  if x.isNaN || y.isNaN || x.isInf || y == 0 then true
  else if y.isInf then !(x == 0)
  else
    let p := partsOf x
    let q := partsOf y
    let low := min p.exponent q.exponent
    let dividend := p.significand * Nat.pow 2 (p.exponent - low).toNat
    let divisor := q.significand * Nat.pow 2 (q.exponent - low).toNat
    dividend % divisor ≠ 0

/-- The double nearest to `n · 10 ^ e`. -/
def ofDecimal (n : Nat) (e : Int) : Float :=
  let magnitude := (Nat.toDigits 10 n).length + e
  if n = 0 then 0
  else if 400 < magnitude then infinity
  else if magnitude < -400 then 0
  else Float.ofScientific n (e < 0) e.natAbs

end ApiContract.Number
