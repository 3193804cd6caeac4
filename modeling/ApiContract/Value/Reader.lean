/-
# Reading JSON

A value is read from the characters of a text, in which ill-formed bytes show as gaps.
There are two faults: the text ends too early, or it goes wrong before its end.  Arrays
and objects may be nested 127 deep.
-/
import ApiContract.Value.Text
import ApiContract.Text.Utf8

namespace ApiContract

/-- What is wrong with a JSON text. -/
inductive JsonFault where
  /-- The text ends too early. -/
  | ended
  /-- The text goes wrong before its end. -/
  | malformed
deriving DecidableEq, Repr

/-- The mark of a fault in messages. -/
def JsonFault.mark : JsonFault → String
  | ended => "<eof>"
  | malformed => "<syntax>"

namespace Json

/-- A text with its ill-formed pieces as gaps. -/
abbrev Input := List (Option Char)

/-- A part of a text that has been read, and the text after it. -/
abbrev Reading (α : Type) := Except JsonFault (α × Input)

/-- The white space of JSON. -/
def isBlank (c : Option Char) : Bool :=
  c == some ' ' || c == some '\n' || c == some '\t' || c == some '\r'

/-- The text after white space. -/
def skip (input : Input) : Input :=
  input.dropWhile isBlank

/-- The value of a digit in base ten. -/
def digit? (c : Option Char) : Option Nat :=
  c.bind (Text.digitBelow? 10)

/-! ## Numbers

Digits are collected in a significand of 64 bits.  Digits beyond it are not looked at:
before the point they raise the exponent, after it they are dropped. -/

/-- The digits of a number read so far. -/
structure Digits where
  /-- The number that the digits form. -/
  significand : Nat
  /-- The power of ten that scales it. -/
  exponent : Int
  /-- Whether a digit did not fit. -/
  isFull : Bool

/-- Takes a digit if it fits. -/
def Digits.push (ds : Digits) (d : Nat) (step : Int) (beyond : Int) : Digits :=
  if ds.isFull then { ds with exponent := ds.exponent + beyond }
  else if ds.significand * 10 + d ≤ Number.greatestUnsigned64.toNat then
    { ds with significand := ds.significand * 10 + d, exponent := ds.exponent + step }
  else { ds with exponent := ds.exponent + beyond, isFull := true }

/-- Takes digits as long as there are any. -/
def takeDigits (step beyond : Int) : Digits → Input → Digits × Input
  | ds, [] => (ds, [])
  | ds, c :: cs =>
    match digit? c with
    | some d => takeDigits step beyond (ds.push d step beyond) cs
    | none => (ds, c :: cs)

/-- The digits of an exponent, none if it exceeds 32 bits, and the text after them. -/
def takeExponent : Nat → Input → Option Nat × Input
  | n, [] => (some n, [])
  | n, c :: cs =>
    match digit? c with
    | some d =>
      if n * 10 + d ≤ 2147483647 then takeExponent (n * 10 + d) cs
      else (none, cs.dropWhile fun c => (digit? c).isSome)
    | none => (some n, c :: cs)

/-- The double with a significand and a power of ten, computed in doubles.  Powers below
`10 ^ -308` are divided out in several steps. -/
def scaled : Nat → Float → Int → Option Float
  | 0, x, _ => some x
  | steps + 1, x, e =>
    if e.natAbs ≤ 308 then
      if 0 ≤ e then
        let y := x * Number.ofDecimal 1 e
        if y.isInf then none else some y
      else some (x / Number.ofDecimal 1 (-e))
    else if x == 0 then some x
    else if 0 ≤ e then none
    else scaled steps (x / Number.ofDecimal 1 308) (e + 308)

/-- The double of a sign, digits and a further power of ten. -/
def double (negative : Bool) (ds : Digits) (e : Int) (rest : Input) : Reading Value :=
  match scaled 8 (Number.ofInteger ds.significand) e with
  | some x => .ok (.number (Number.withSign negative x), rest)
  | none => .error .malformed

/-- Reads on after the mark of an exponent. -/
def readExponent (negative : Bool) (ds : Digits) (input : Input) : Reading Value :=
  let (down, input) := match input with
    | some '+' :: cs => (false, cs)
    | some '-' :: cs => (true, cs)
    | cs => (false, cs)
  match input with
  | [] => .error .ended
  | c :: cs =>
    match digit? c with
    | none => .error .malformed
    | some d =>
      match takeExponent d cs with
      | (some e, rest) =>
        double negative ds (if down then ds.exponent - e else ds.exponent + e) rest
      | (none, rest) =>
        if ds.significand ≠ 0 ∧ ¬down then .error .malformed
        else .ok (.number (Number.withSign negative 0), rest)

/-- Whether a character marks an exponent. -/
def isExponentMark (c : Option Char) : Bool :=
  c == some 'e' || c == some 'E'

/-- Reads on after a point. -/
def readFraction (negative : Bool) (ds : Digits) (input : Input) : Reading Value :=
  match input with
  | [] => .error .ended
  | c :: _ =>
    if (digit? c).isNone then .error .malformed
    else
      let (all, rest) := takeDigits (-1) 0 { ds with isFull := false } input
      match rest with
      | c :: cs =>
        if isExponentMark c then readExponent negative all cs
        else double negative all all.exponent rest
      | [] => double negative all all.exponent rest

/-- A whole number: an integer if it fits in 64 bits, else a double.  A negative zero is a
double. -/
def whole (negative : Bool) (n : Nat) : Value :=
  if negative then
    if n = 0 ∨ (n : Int) > -Number.least64 then .number (-(Number.ofInteger n))
    else Value.ofInt (-n)
  else Value.ofInt n

/-- Reads on after the digits before the point. -/
def readRest (negative : Bool) (ds : Digits) (rest : Input) : Reading Value :=
  let plain : Reading Value :=
    if ds.isFull then double negative ds ds.exponent rest
    else .ok (whole negative ds.significand, rest)
  match rest with
  | [] => plain
  | c :: cs =>
    if c == some '.' then readFraction negative ds cs
    else if isExponentMark c then readExponent negative ds cs
    else plain

/-- Reads a number after its sign.  Only a single zero may begin with a zero. -/
def readNumber (negative : Bool) (input : Input) : Reading Value :=
  match input with
  | [] => .error .ended
  | c :: cs =>
    match digit? c with
    | none => .error .malformed
    | some 0 =>
      if (cs.head?.bind digit?).isSome then .error .malformed
      else readRest negative ⟨0, 0, false⟩ cs
    | some d =>
      let (ds, rest) := takeDigits 0 1 ⟨d, 0, false⟩ cs
      readRest negative ds rest

/-! ## Strings -/

/-- The number of bytes of a character; a gap counts as one byte. -/
def width (c : Option Char) : Nat :=
  match c with
  | some c => c.utf8Size
  | none => 1

/-- Four digits of base sixteen. -/
def readUnit (input : Input) : Reading Nat :=
  if ((input.take 4).map width).foldr (· + ·) 0 < 4 then .error .ended
  else
    match input with
    | a :: b :: c :: d :: cs =>
      match [a, b, c, d].mapM fun c => c.bind Text.digit? with
      | some ds => .ok (ds.foldl (fun n d => 16 * n + d) 0, cs)
      | none => .error .malformed
    | _ => .error .malformed

/-- The text after an expected character inside a string. -/
def expect (c : Char) (input : Input) : Reading Unit :=
  match input with
  | [] => .error .ended
  | d :: cs => if d == some c then .ok ((), cs) else .error .malformed

/-- Reads a character given by its code: one unit, or a leading and a trailing half. -/
def readCode (input : Input) : Except JsonFault (Char × Input) := do
  let (n, cs) ← readUnit input
  if 0xDC00 ≤ n ∧ n ≤ 0xDFFF then .error .malformed
  else if n < 0xD800 ∨ 0xDBFF < n then .ok (Char.ofNat n, cs)
  else
    let ((), cs) ← expect '\\' cs
    let ((), cs) ← expect 'u' cs
    let (m, cs) ← readUnit cs
    if 0xDC00 ≤ m ∧ m ≤ 0xDFFF then
      .ok (Char.ofNat (0x10000 + (n - 0xD800) * 1024 + (m - 0xDC00)), cs)
    else .error .malformed

/-- The character that stands for itself or for a control character after a backslash. -/
def unescaped? (c : Char) : Option Char :=
  match c with
  | '"' | '\\' | '/' => some c
  | 'b' => some '\x08'
  | 'f' => some '\x0c'
  | 'n' => some '\n'
  | 'r' => some '\r'
  | 't' => some '\t'
  | _ => none

/-- Reads a string after its opening quote.  Gaps make the string ill-formed, which shows
at its end. -/
def readString : Nat → List (Option Char) → Input → Reading String
  | 0, _, _ => .error .ended
  | _ + 1, _, [] => .error .ended
  | n + 1, before, c :: cs =>
    match c with
    | none => readString n (none :: before) cs
    | some '"' =>
      match before.reverse.mapM id with
      | some chars => .ok (String.ofList chars, cs)
      | none => .error .malformed
    | some '\\' =>
      match cs with
      | [] => .error .ended
      | some 'u' :: cs =>
        match readCode cs with
        | .ok (d, cs) => readString n (some d :: before) cs
        | .error e => .error e
      | d :: cs =>
        match d.bind unescaped? with
        | some d => readString n (some d :: before) cs
        | none => .error .malformed
    | some c => if c.toNat < 0x20 then .error .malformed else readString n (some c :: before) cs

/-- Reads the rest of a word. -/
def readWord (value : Value) : List Char → Input → Reading Value
  | [], input => .ok (value, input)
  | _ :: _, [] => .error .ended
  | w :: ws, c :: cs => if c == some w then readWord value ws cs else .error .malformed

/-! ## Values -/

mutual

/-- Reads a value; `depth` is the number of containers that may still be opened. -/
def readValue : Nat → Nat → Input → Reading Value
  | 0, _, _ => .error .malformed
  | n + 1, depth, input =>
    match skip input with
    | [] => .error .ended
    | c :: cs =>
      match c with
      | some 'n' => readWord .null ['u', 'l', 'l'] cs
      | some 't' => readWord (.bool true) ['r', 'u', 'e'] cs
      | some 'f' => readWord (.bool false) ['a', 'l', 's', 'e'] cs
      | some '-' => readNumber true cs
      | some '"' => (readString (cs.length + 1) [] cs).map fun (s, rest) => (.string s, rest)
      | some '[' => if depth = 0 then .error .malformed else readItems n (depth - 1) true [] cs
      | some '\x7b' => if depth = 0 then .error .malformed else readFields n (depth - 1) true [] cs
      | c => if (digit? c).isSome then readNumber false (c :: cs) else .error .malformed

/-- Reads the items of an array up to its end; `before` holds the items read so far, the
last one first. -/
def readItems : Nat → Nat → Bool → List Value → Input → Reading Value
  | 0, _, _, _, _ => .error .malformed
  | n + 1, depth, first, before, input =>
    let next (input : Input) : Reading Value :=
      match readValue n depth input with
      | .ok (v, cs) => readItems n depth false (v :: before) cs
      | .error e => .error e
    match skip input with
    | [] => .error .ended
    | some ']' :: cs => .ok (.array before.reverse, cs)
    | c :: cs =>
      if first then next (c :: cs)
      else if c == some ',' then
        match skip cs with
        | some ']' :: _ => .error .malformed
        | cs => next cs
      else .error .malformed

/-- Reads the fields of an object up to its end. -/
def readFields : Nat → Nat → Bool → Fields → Input → Reading Value
  | 0, _, _, _, _ => .error .malformed
  | n + 1, depth, first, before, input =>
    let next (input : Input) : Reading Value :=
      match input with
      | [] => .error .ended
      | some '"' :: cs =>
        match readString (cs.length + 1) [] cs with
        | .error e => .error e
        | .ok (key, cs) =>
          match skip cs with
          | [] => .error .ended
          | some ':' :: cs =>
            match readValue n depth cs with
            | .ok (v, cs) => readFields n depth false (Fields.insert key v before) cs
            | .error e => .error e
          | _ => .error .malformed
      | _ => .error .malformed
    match skip input with
    | [] => .error .ended
    | some '\x7d' :: cs => .ok (.object before, cs)
    | c :: cs =>
      if first then next (c :: cs)
      else if c == some ',' then next (skip cs)
      else .error .malformed

end

/-- Reads a text that is one value. -/
def read (input : Input) : Except JsonFault Value := do
  let (v, rest) ← readValue (2 * input.length + 2) 127 input
  if skip rest = [] then .ok v else .error .malformed

/-- Reads a text. -/
def ofText (text : String) : Except JsonFault Value :=
  read (text.toList.map some)

/-- Reads a byte sequence. -/
def ofBytes (bs : List UInt8) : Except JsonFault Value :=
  read (Utf8.scan bs)

end Json

end ApiContract
