/-
# Decimal notation of doubles

A notation decides where a decimal is written positionally, whether a whole number keeps a
fraction, and how an exponent looks.  The digits themselves are the shortest ones.
-/
import ApiContract.Number.Shortest
import ApiContract.Text.Letters

namespace ApiContract.Number

/-- How a double is written. -/
structure NumberStyle where
  /-- Whether a decimal whose point stands after that many digits is written positionally. -/
  positional : Int → Bool
  /-- What follows the digits of a whole number. -/
  wholeEnd : List Char
  /-- What stands between the digits and an exponent that is not negative. -/
  upMark : List Char
  /-- What stands between the digits and the absolute value of a negative exponent. -/
  downMark : List Char

/-- The text of a positive decimal. -/
def NumberStyle.decimal (style : NumberStyle) (d : Decimal) : List Char :=
  let digits := Text.decimalDigits d.digits
  let point := (digits.length : Int) + d.exponent
  if style.positional point then
    if 0 ≤ d.exponent then digits ++ List.replicate d.exponent.toNat '0' ++ style.wholeEnd
    else if 0 < point then digits.take point.toNat ++ '.' :: digits.drop point.toNat
    else '0' :: '.' :: (List.replicate (-point).toNat '0' ++ digits)
  else
    let e := point - 1
    let mark := if 0 ≤ e then style.upMark else style.downMark
    let fraction := match digits.drop 1 with
      | [] => []
      | rest => '.' :: rest
    digits.take 1 ++ fraction ++ mark ++ Text.decimalDigits e.natAbs

/-- The text of a finite double. -/
def NumberStyle.finite (style : NumberStyle) (x : Float) : List Char :=
  let sign := if signBit x then ['-'] else []
  if x == 0 then sign ++ '0' :: style.wholeEnd
  else sign ++ style.decimal (shortest x.abs)

/-- Numbers of documents: positional from `0.00001` up to below `10 ^ 16`, always with a
fraction or an exponent, exponents with a sign. -/
def documentStyle : NumberStyle where
  positional point := -5 < point && point ≤ 16
  wholeEnd := ['.', '0']
  upMark := ['e', '+']
  downMark := ['e', '-']

/-- Numbers as names: always positional, whole numbers without a fraction. -/
def nameStyle : NumberStyle where
  positional _ := true
  wholeEnd := []
  upMark := ['e']
  downMark := ['e', '-']

/-- A double in a style, with words for the values that are not finite. -/
def NumberStyle.text (style : NumberStyle) (x : Float) : String :=
  if x.isNaN then "NaN"
  else if x.isInf then (if signBit x then "-inf" else "inf")
  else String.ofList (style.finite x)

end ApiContract.Number
