/-
# Names of hosts

A name is brought into one spelling, and its labels outside ASCII are written in ASCII: the
characters of ASCII first, then the others as distances in an alphabet of thirty-six.
-/
import ApiContract.Unicode.Composition
import ApiContract.Unicode.Direction
import ApiContract.Url.Mapping

namespace ApiContract.Url.Domain

/-! ## Distances -/

/-- The digit with a value below 36. -/
def digit (n : Nat) : Char :=
  if n < 26 then Char.ofNat ('a'.toNat + n) else Char.ofNat ('0'.toNat + (n - 26))

/-- The value of a digit. -/
def digit? (c : Char) : Option Nat :=
  if 'a' ≤ c ∧ c ≤ 'z' then some (c.toNat - 'a'.toNat)
  else if 'A' ≤ c ∧ c ≤ 'Z' then some (c.toNat - 'A'.toNat)
  else if '0' ≤ c ∧ c ≤ '9' then some (c.toNat - '0'.toNat + 26)
  else none

/-- From which value on a digit at a place is followed by another one. -/
def threshold (place bias : Nat) : Nat :=
  if place ≤ bias then 1 else if bias + 26 ≤ place then 26 else place - bias

/-- Divides a distance down to the usual size; counts 36 for every step. -/
def shrink : Nat → Nat → Nat → Nat × Nat
  | 0, d, k => (d, k)
  | n + 1, d, k => if 455 < d then shrink n (d / 35) (k + 36) else (d, k)

/-- The bias after a distance, when `count` characters have been written. -/
def adapt (distance count : Nat) (isFirst : Bool) : Nat :=
  let d := if isFirst then distance / 700 else distance / 2
  let (d, k) := shrink d (d + d / count) 0
  k + 36 * d / (d + 38)

/-- The digits of a distance. -/
def distanceDigits (bias : Nat) : Nat → Nat → Nat → List Char
  | 0, _, _ => []
  | n + 1, place, d =>
    let t := threshold place bias
    if d < t then [digit d]
    else
      digit (t + (d - t) % (36 - t)) :: distanceDigits bias n (place + 36) ((d - t) / (36 - t))

/-! ## Writing labels -/

/-- The state of writing a label. -/
structure Writer where
  /-- The digits so far. -/
  digits : List Char
  /-- The distance since the last digit. -/
  distance : Nat
  /-- The bias. -/
  bias : Nat
  /-- The number of characters written. -/
  count : Nat

/-- Writes the places of a character of a label. -/
def Writer.write (basics n : Nat) (w : Writer) (c : Char) : Writer :=
  if c.toNat < n then { w with distance := w.distance + 1 }
  else if c.toNat = n then
    { digits := w.digits ++ distanceDigits w.bias (w.distance + 1) 36 w.distance
      distance := 0
      bias := adapt w.distance (w.count + 1) (w.count == basics)
      count := w.count + 1 }
  else w

/-- Writes all places of the characters outside ASCII, given in ascending order. -/
def writeAll (label : List Char) (basics : Nat) : List Nat → Nat → Writer → Writer
  | [], _, w => w
  | n :: ns, least, w =>
    let w := { w with distance := w.distance + (n - least) * (w.count + 1) }
    let w := label.foldl (Writer.write basics n) w
    writeAll label basics ns (n + 1) { w with distance := w.distance + 1 }

/-- The text of a label in ASCII. -/
def encodeLabel (label : List Char) : List Char :=
  let basic := label.filter (·.toNat < 0x80)
  let others := ((label.filter (0x80 ≤ ·.toNat)).map Char.toNat).eraseDups.mergeSort
  let w := writeAll label basic.length others 0x80 ⟨[], 0, 72, basic.length⟩
  basic ++ (if basic = [] then [] else ['-']) ++ w.digits

/-! ## Reading labels -/

/-- Reads a distance on top of `i`: the sum and the text after it. -/
def readDistance (bias : Nat) : List Char → Nat → Nat → Nat → Option (Nat × List Char)
  | [], _, _, _ => none
  | c :: cs, place, weight, i => do
    let d ← digit? c
    let i := i + d * weight
    if Nat.pow 2 32 ≤ i then none
    let t := threshold place bias
    if d < t then some (i, cs) else readDistance bias cs (place + 36) (weight * (36 - t)) i

/-- Reads the characters outside ASCII into a label. -/
def readAll : Nat → List Char → Nat → Nat → Nat → List Char → Option (List Char)
  | 0, _, _, _, _, _ => none
  | _ + 1, [], _, _, _, label => some label
  | fuel + 1, cs, n, i, bias, label => do
    let (next, rest) ← readDistance bias cs 36 1 i
    let count := label.length + 1
    let n := n + next / count
    let place := next % count
    if 0x110000 ≤ n ∨ (0xD800 ≤ n ∧ n ≤ 0xDFFF) then none
    readAll fuel rest n (place + 1) (adapt (next - i) count (i == 0 && label.all (·.toNat < 0x80)))
      (label.take place ++ Char.ofNat n :: label.drop place)

/-- The label that a text in ASCII stands for. -/
def decodeLabel? (cs : List Char) : Option (List Char) :=
  let (basic, rest) := match (Text.split '-' cs).reverse with
    | [] => ([], [])
    | [only] => ([], only)
    | last :: before => (Text.join '-' before.reverse, last)
  readAll (rest.length + 1) rest 0x80 0 72 basic

/-! ## Labels -/

/-- What begins a label that has been written in ASCII. -/
def encodedStart : List Char := ['x', 'n', '-', '-']

/-- Whether the characters that join letters or keep them apart stand where they have an
effect: after a sign that joins consonants or, if they keep apart, between letters that
would join.  `before` holds the characters before, the nearest one first. -/
def joinersFit (before : List Char) : List Char → Bool
  | [] => true
  | c :: cs =>
    let followsJoiner := before.head?.any (Unicode.combiningClass · == 9)
    let nearest (cs : List Char) := cs.find? (!Unicode.isTransparent ·)
    let isBetween :=
      (nearest before).any Unicode.joinsNext && (nearest cs).any Unicode.joinsPrevious
    let fits :=
      if c = '\u200d' then followsJoiner
      else if c = '\u200c' then followsJoiner || isBetween
      else true
    fits && joinersFit (c :: before) cs

/-- Whether the directions of the characters of a label go together. -/
def directionsFit (label : List Char) : Bool :=
  let directions := label.map Unicode.direction
  let last := directions.reverse.find? (· ≠ .mark)
  match directions.head? with
  | none => true
  | some .leftToRight =>
    !directions.contains .rightToLeft && !directions.contains .arabicNumber
      && last.any ([Unicode.Direction.leftToRight, .number].contains ·)
  | some .rightToLeft =>
    !directions.contains .leftToRight
      && !(directions.contains .number && directions.contains .arabicNumber)
      && last.any ([Unicode.Direction.rightToLeft, .number, .arabicNumber].contains ·)
  | some _ => false

/-- Whether characters make a label that needs to be written in ASCII. -/
def isLabel (label : List Char) : Bool :=
  label.any (0x80 ≤ ·.toNat)
    && !(label.head?.any fun c => (Unicode.category c).startsWith "M")
    && (Text.dropPrefix? encodedStart label).isNone
    && joinersFit [] label

/-- Whether characters are spelled as a name spells them. -/
def isSpelled (label : List Char) : Bool :=
  label.all (fun c => isValid c && mapped c == [c]) && Unicode.composed label == label

/-- The label that a part of a name is.  One that has already been written in ASCII must be
readable and must have needed it. -/
def readLabel? (part : List Char) : Option (List Char) :=
  if part.any (0x80 ≤ ·.toNat) then
    if isLabel part then some part else none
  else
    match Text.dropPrefix? encodedStart part with
    | none => some part
    | some rest => do
      let label ← decodeLabel? rest
      if rest.getLast? ≠ some '-' && isSpelled label && isLabel label
          && encodeLabel label == rest then
        some label
      else none

/-- A label in ASCII. -/
def writeLabel (label : List Char) : List Char :=
  if label.any (0x80 ≤ ·.toNat) then encodedStart ++ encodeLabel label else label

/-! ## Names -/

/-- A name in ASCII; none if it holds characters that no name may hold, or a label that is
none.  Where one label is written from right to left, the directions count in all of them. -/
def toAscii? (cs : List Char) : Option (List Char) := do
  let name := Unicode.composed (cs.flatMap mapped)
  if !name.all isValid then none
  let labels ← (Text.split '.' name).mapM readLabel?
  if labels.any (·.any Unicode.isRightToLeft) && !labels.all directionsFit then none
  some (Text.join '.' (labels.map writeLabel))

end ApiContract.Url.Domain
