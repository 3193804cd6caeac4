/-
# Reading integers

An integer is an optional sign and at least one digit of the base.  Digits are taken from
left to right and the first one that is not a digit, or that leads out of the range,
decides what is wrong with the text.
-/
import ApiContract.Text.Letters

namespace ApiContract.Number

/-- What is wrong with the text of an integer. -/
inductive IntegerFault where
  /-- There is no text. -/
  | empty
  /-- A character is not a digit, or there is a sign and nothing else. -/
  | invalidDigit
  /-- The number is above the range. -/
  | tooLarge
  /-- The number is below the range. -/
  | tooSmall
deriving DecidableEq, Repr

/-- The wording of a fault. -/
def IntegerFault.message : IntegerFault → String
  | empty => "cannot parse integer from empty string"
  | invalidDigit => "invalid digit found in string"
  | tooLarge => "number too large to fit in target type"
  | tooSmall => "number too small to fit in target type"

/-- Reads digits of a base onto a number read so far; `add` says how a digit changes the
number and `fits` whether the result is in range. -/
def readDigits (base : Nat) (add : Int → Nat → Int) (fits : Int → Bool)
    (outside : IntegerFault) : Int → List Char → Except IntegerFault Int
  | n, [] => .ok n
  | n, c :: cs =>
    match Text.digitBelow? base c with
    | none => .error .invalidDigit
    | some d =>
      if fits (add n d) then readDigits base add fits outside (add n d) cs
      else .error outside

/-- Reads an integer between two bounds.  A minus sign is read only if the range has
negative numbers. -/
def readInteger (base : Nat) (least greatest : Int) (cs : List Char) :
    Except IntegerFault Int :=
  let up := readDigits base (fun n d => n * base + d) (· ≤ greatest) .tooLarge 0
  let down := readDigits base (fun n d => n * base - d) (least ≤ ·) .tooSmall 0
  match cs with
  | [] => .error .empty
  | ['+'] | ['-'] => .error .invalidDigit
  | '+' :: cs => up cs
  | '-' :: cs => if least < 0 then down cs else .error .invalidDigit
  | cs => up cs

/-- The least 64-bit integer. -/
def least64 : Int := -9223372036854775808

/-- The greatest 64-bit integer. -/
def greatest64 : Int := 9223372036854775807

/-- The greatest unsigned 64-bit integer. -/
def greatestUnsigned64 : Int := 18446744073709551615

/-- An unsigned 16-bit number in base ten. -/
def readUnsigned16? (cs : List Char) : Option Nat :=
  match readInteger 10 0 65535 cs with
  | .ok n => some n.toNat
  | .error _ => none

/-- An unsigned 64-bit number in base ten. -/
def readUnsigned64? (cs : List Char) : Option Nat :=
  match readInteger 10 0 greatestUnsigned64 cs with
  | .ok n => some n.toNat
  | .error _ => none

end ApiContract.Number
