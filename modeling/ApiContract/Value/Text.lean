/-
# The text of values

A value is written as compact JSON, keys in their order and characters outside ASCII as
they are.  A typed leaf is written as the string that stands for it, and a number that is
not finite as `null`.
-/
import ApiContract.Value.Basic
import ApiContract.Number.Notation
import ApiContract.Leaf.Base64

namespace ApiContract.Value

/-- The text that stands for a typed leaf. -/
def leafText? : Value → Option String
  | date d => some (String.ofList d.text)
  | dateTime t => some (String.ofList t.text)
  | bytes bs => some (String.ofList (Base64.encode bs))
  | ip a => some (String.ofList a.text)
  | _ => none

mutual

/-- The value in the shapes of JSON alone. -/
def plain : Value → Value
  | number x => if x.isFinite then number x else null
  | array items => array (plainItems items)
  | object fields => object (plainFields fields)
  | date d => string (String.ofList d.text)
  | dateTime t => string (String.ofList t.text)
  | bytes bs => string (String.ofList (Base64.encode bs))
  | ip a => string (String.ofList a.text)
  | v => v

/-- The items in the shapes of JSON alone. -/
def plainItems : List Value → List Value
  | [] => []
  | v :: vs => plain v :: plainItems vs

/-- The fields in the shapes of JSON alone. -/
def plainFields : List (String × Value) → List (String × Value)
  | [] => []
  | (k, v) :: fs => (k, plain v) :: plainFields fs

end

/-- How a character stands inside quotes. -/
def escaped (c : Char) : List Char :=
  match c with
  | '"' => ['\\', '"']
  | '\\' => ['\\', '\\']
  | '\n' => ['\\', 'n']
  | '\r' => ['\\', 'r']
  | '\t' => ['\\', 't']
  | '\x08' => ['\\', 'b']
  | '\x0c' => ['\\', 'f']
  | c =>
    if c.toNat < 0x20 then '\\' :: 'u' :: Text.fill 4 (Text.hexDigits c.toNat) else [c]

/-- A text in quotes. -/
def quoted (cs : List Char) : List Char :=
  '"' :: (cs.flatMap escaped ++ ['"'])

/-- The text of an integer. -/
def integerText (n : Int) : List Char :=
  if n < 0 then '-' :: Text.decimalDigits n.natAbs else Text.decimalDigits n.natAbs

mutual

/-- The text of a value as a list of characters. -/
def written : Value → List Char
  | null => ['n', 'u', 'l', 'l']
  | bool true => ['t', 'r', 'u', 'e']
  | bool false => ['f', 'a', 'l', 's', 'e']
  | integer n => integerText n.toInt
  | number x => if x.isFinite then Number.documentStyle.finite x else ['n', 'u', 'l', 'l']
  | string s => quoted s.toList
  | array items => '[' :: (writtenItems true items ++ [']'])
  | object fields => '{' :: (writtenFields true fields ++ ['}'])
  | date d => quoted d.text
  | dateTime t => quoted t.text
  | bytes bs => quoted (Base64.encode bs)
  | ip a => quoted a.text

/-- Items, each but the first after a comma. -/
def writtenItems : Bool → List Value → List Char
  | _, [] => []
  | first, v :: vs => (if first then [] else [',']) ++ written v ++ writtenItems false vs

/-- Fields, each but the first after a comma. -/
def writtenFields : Bool → List (String × Value) → List Char
  | _, [] => []
  | first, (k, v) :: fs =>
    (if first then [] else [',']) ++ quoted k.toList ++ ':' :: written v
      ++ writtenFields false fs

end

/-- The text of a value as it is sent. -/
def serialized (v : Value) : String :=
  String.ofList v.written

/-- The text of a value in messages. -/
def text (v : Value) : String :=
  v.plain.serialized

end ApiContract.Value
