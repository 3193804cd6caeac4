/-
# Plain scalars and their values

What a text without quotes stands for: nothing, a truth value, a number, or itself.
-/
import ApiContract.Number.Integer
import ApiContract.Number.Numeral
import ApiContract.Text.Pieces

namespace ApiContract.Yaml

/-- What a scalar stands for. -/
inductive Meaning where
  /-- Nothing. -/
  | null
  /-- A truth value. -/
  | bool (b : Bool)
  /-- An integer of at most 128 bits. -/
  | integer (n : Int)
  /-- A double. -/
  | number (x : Float)
  /-- A text. -/
  | string (s : String)

namespace Meaning

/-- The words for nothing. -/
def null? (s : String) : Option Unit :=
  if s = "null" ∨ s = "Null" ∨ s = "NULL" ∨ s = "~" then some () else none

/-- The words for truth values. -/
def bool? (s : String) : Option Bool :=
  if s = "true" ∨ s = "True" ∨ s = "TRUE" then some true
  else if s = "false" ∨ s = "False" ∨ s = "FALSE" then some false
  else none

/-- Whether digits begin with a superfluous zero, so that they are a text. -/
def isPadded (cs : List Char) : Bool :=
  let digits := match cs with
    | '+' :: cs => cs
    | '-' :: cs => cs
    | cs => cs
  match digits with
  | '0' :: c :: cs => (c :: cs).all Char.isDigit
  | _ => false

/-- Whether a text begins with a sign. -/
def isSigned : List Char → Bool
  | '+' :: _ => true
  | '-' :: _ => true
  | _ => false

/-- The digits after the mark of a base. -/
def ofMark? (read : Nat → List Char → Option Int) (sign : List Char) (cs : List Char) :
    Option Int :=
  let inBase (mark : Char) (base : Nat) : Option Int :=
    (Text.dropPrefix? (sign ++ ['0', mark]) cs).bind fun digits =>
      if isSigned digits then none
      else read base (sign ++ digits)
  (inBase 'x' 16).or ((inBase 'o' 8).or (inBase 'b' 2))

/-- Reads an integer that does not begin with a minus. -/
def unsigned? (read : Nat → List Char → Option Int) (cs : List Char) : Option Int :=
  let digits := match cs with
    | '+' :: cs => cs
    | cs => cs
  (ofMark? read [] digits).or
    (if isSigned digits || isPadded cs then none else read 10 digits)

/-- Reads an integer that may begin with a minus. -/
def signed? (read : Nat → List Char → Option Int) (cs : List Char) : Option Int :=
  (ofMark? read ['-'] cs).or (if isPadded cs then none else read 10 cs)

/-- Reads an integer between two bounds. -/
def within (least greatest : Int) (base : Nat) (cs : List Char) : Option Int :=
  (Number.readInteger base least greatest cs).toOption

/-- Reads an integer of at most 128 bits. -/
def integer? (cs : List Char) : Option Int :=
  (unsigned? (within 0 (Int.pow 2 128 - 1)) cs).or
    (signed? (within (-(Int.pow 2 127)) (Int.pow 2 127 - 1)) cs)

/-- Reads a double: the words for infinities and for what is no number, or a numeral whose
value is finite. -/
def number? (cs : List Char) : Option Float :=
  let word := String.ofList cs
  let (isPlus, digits) := match cs with
    | '+' :: cs => (true, cs)
    | cs => (false, cs)
  let unsigned := String.ofList digits
  if isPlus && isSigned digits then none
  else if unsigned = ".inf" ∨ unsigned = ".Inf" ∨ unsigned = ".INF" then some Number.infinity
  else if word = "-.inf" ∨ word = "-.Inf" ∨ word = "-.INF" then some (-Number.infinity)
  else if word = ".nan" ∨ word = ".NaN" ∨ word = ".NAN" then some Number.notANumber
  else (Number.readDouble digits).toOption.filter (·.isFinite)

/-- What a text without quotes stands for. -/
def ofPlain (s : String) : Meaning :=
  let cs := s.toList
  if cs = [] ∨ (null? s).isSome then null
  else match bool? s with
    | some b => bool b
    | none =>
      match integer? cs with
      | some n => integer n
      | none =>
        match if isPadded cs then none else number? cs with
        | some x => number x
        | none => string s

/-- What a scalar stands for: a tag names the kind that the text must have.  Local tags
have no meaning. -/
def ofScalar (tag : Option String) (isPlain : Bool) (s : String) : Option Meaning :=
  match tag with
  | none => some (if isPlain then ofPlain s else string s)
  | some tag =>
    if tag.toList.head? = some '!' then none
    else if tag = "tag:yaml.org,2002:bool" then (bool? s).map bool
    else if tag = "tag:yaml.org,2002:int" then (integer? s.toList).map integer
    else if tag = "tag:yaml.org,2002:float" then (number? s.toList).map number
    else if tag = "tag:yaml.org,2002:null" then (null? s).map fun _ => null
    else some (string s)

end Meaning

end ApiContract.Yaml
