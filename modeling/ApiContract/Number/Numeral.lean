/-
# Reading doubles

A numeral is an optional sign, digits with an optional point, and an optional exponent;
there is a digit before or after the point.  The words `inf`, `infinity` and `nan` are
read in any case.  The result is the nearest double.
-/
import ApiContract.Number.Double
import ApiContract.Text.Letters

namespace ApiContract.Number

/-- What is wrong with the text of a double. -/
inductive NumeralFault where
  /-- There is no text. -/
  | empty
  /-- The text is no numeral. -/
  | invalid
deriving DecidableEq, Repr

/-- The wording of a fault. -/
def NumeralFault.message : NumeralFault → String
  | empty => "cannot parse float from empty string"
  | invalid => "invalid float literal"

/-- The number that decimal digits denote. -/
def ofDigits (cs : List Char) : Nat :=
  cs.foldl (fun n c => 10 * n + (c.toNat - '0'.toNat)) 0

/-- The exponent after its mark: an optional sign and at least one digit. -/
def exponent? (cs : List Char) : Option Int :=
  let digits (cs : List Char) : Option Int :=
    if cs ≠ [] ∧ cs.all Char.isDigit then some (ofDigits cs : Int) else none
  match cs with
  | '+' :: cs => digits cs
  | '-' :: cs => (digits cs).map (- ·)
  | cs => digits cs

/-- An unsigned numeral of digits. -/
def magnitude? (cs : List Char) : Option Float :=
  let whole := cs.takeWhile Char.isDigit
  let (fraction, rest) := match cs.dropWhile Char.isDigit with
    | '.' :: cs => (cs.takeWhile Char.isDigit, cs.dropWhile Char.isDigit)
    | cs => ([], cs)
  let value (e : Int) := ofDecimal (ofDigits (whole ++ fraction)) (e - fraction.length)
  if whole = [] ∧ fraction = [] then none
  else match rest with
    | [] => some (value 0)
    | c :: cs => if c = 'e' ∨ c = 'E' then (exponent? cs).map value else none

/-- The words for values that are not finite. -/
def word? (cs : List Char) : Option Float :=
  let word := String.ofList (cs.map Char.toLower)
  if word = "nan" then some notANumber
  else if word = "inf" ∨ word = "infinity" then some infinity
  else none

/-- Reads a double. -/
def readDouble (cs : List Char) : Except NumeralFault Float :=
  let unsigned (negative : Bool) (cs : List Char) : Except NumeralFault Float :=
    match (magnitude? cs).or (word? cs) with
    | some x => .ok (withSign negative x)
    | none => .error .invalid
  match cs with
  | [] => .error .empty
  | '+' :: cs => unsigned false cs
  | '-' :: cs => unsigned true cs
  | cs => unsigned false cs

end ApiContract.Number
