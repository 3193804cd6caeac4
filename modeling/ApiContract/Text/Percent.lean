/-
# Percent encoding

A byte may be written as a percent sign and two digits of base sixteen.  A percent sign
without digits stands for itself.  Forms are a second dialect, in which a plus stands for
a space.
-/
import ApiContract.Text.Letters
import ApiContract.Text.Pieces
import ApiContract.Text.Utf8

namespace ApiContract.Percent

/-! ## Encoding -/

/-- The digit of base sixteen with a value, in upper case. -/
def digit (n : Nat) : Char :=
  if n < 10 then Char.ofNat ('0'.toNat + n) else Char.ofNat ('A'.toNat + (n - 10))

/-- A byte in encoded form. -/
def encodeByte (b : UInt8) : List Char :=
  ['%', digit (b.toNat / 16), digit (b.toNat % 16)]

/-- A text in which the characters outside a class are encoded. -/
def encodeExcept (keep : Char → Bool) (cs : List Char) : List Char :=
  cs.flatMap fun c => if keep c then [c] else (String.utf8EncodeChar c).flatMap encodeByte

/-- The characters that never need encoding: letters, digits and `-`, `_`, `.`, `~`. -/
def isUnreserved (c : Char) : Bool :=
  c.isAlphanum || c == '-' || c == '_' || c == '.' || c == '~'

/-- A text in which all but the unreserved characters are encoded. -/
def encode (cs : List Char) : List Char :=
  encodeExcept isUnreserved cs

/-! ## Decoding -/

/-- The bytes that a text stands for. -/
def bytes : List Char → List UInt8
  | [] => []
  | '%' :: a :: b :: cs =>
    match Text.digit? a, Text.digit? b with
    | some m, some n => UInt8.ofNat (16 * m + n) :: bytes cs
    | _, _ => String.utf8EncodeChar '%' ++ bytes (a :: b :: cs)
  | c :: cs => String.utf8EncodeChar c ++ bytes cs

/-- The text that a text stands for; none if the bytes are ill-formed. -/
def decode? (cs : List Char) : Option (List Char) :=
  Utf8.decode? (bytes cs)

/-! ## Forms -/

/-- The text that a text of a form stands for; ill-formed bytes are replaced. -/
def decodeForm (cs : List Char) : List Char :=
  Utf8.decodeLossy (bytes (cs.map fun c => if c = '+' then ' ' else c))

/-- The pairs of a form.  Empty pairs do not count, and a pair without `=` has an empty
value. -/
def formPairs (cs : List Char) : List (String × String) :=
  ((Text.split '&' cs).filter (· ≠ [])).map fun piece =>
    let (key, value) := (Text.cut '=' piece).getD (piece, [])
    (String.ofList (decodeForm key), String.ofList (decodeForm value))

end ApiContract.Percent
