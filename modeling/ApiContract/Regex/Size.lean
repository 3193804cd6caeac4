/-
# How large and how deep expressions are

An expression is compiled twice, once to be read forwards and once to be read backwards.  What
comes out is made of states; those for a choice have alternatives, and those for bytes have
transitions.  An expression is refused if either program is too large, or if its syntax is
nested too deeply.

Classes of characters are compiled into sequences of ranges of bytes.  Forwards, sequences
that end alike share their ends; backwards, those that begin alike share their beginnings.
-/
import ApiContract.Regex.Form

namespace ApiContract

/-! ## Sequences of bytes -/

namespace Utf8

/-- The bytes of a code point. -/
def bytesOf (n : Nat) : List Nat :=
  if n < 0x80 then [n]
  else if n < 0x800 then [0xC0 + n / 64, 0x80 + n % 64]
  else if n < 0x10000 then [0xE0 + n / 4096, 0x80 + n / 64 % 64, 0x80 + n % 64]
  else [0xF0 + n / 262144, 0x80 + n / 4096 % 64, 0x80 + n / 64 % 64, 0x80 + n % 64]

/-- Where a range of code points is cut, so that the code points of each part have all
combinations of their bytes: around the surrogates, where the number of bytes changes, and
where a byte does not run through all of its values. -/
def cutBetween? (first last : Nat) : Option (Nat × Nat) :=
  if first < 0xE000 && 0xD7FF < last then some (0xD7FF, 0xE000)
  else
    match [0x7F, 0x7FF, 0xFFFF].find? fun most => first ≤ most && most < last with
    | some most => some (most, most + 1)
    | none =>
      if last < 0x80 then none
      else
        [64, 4096, 262144].findSome? fun block =>
          if first / block = last / block then none
          else if first % block ≠ 0 then
            let most := first - first % block + (block - 1)
            some (most, most + 1)
          else if last % block ≠ block - 1 then
            some (last - last % block - 1, last - last % block)
          else none

/-- The sequences of ranges of bytes for a range of code points; the number bounds how often
the range is cut. -/
def sequences : Nat → Nat → Nat → List (List (Nat × Nat))
  | 0, _, _ => []
  | n + 1, first, last =>
    if last < first then []
    else
      match cutBetween? first last with
      | some (most, least) => sequences n first most ++ sequences n least last
      | none => [(bytesOf first).zip (bytesOf last)]

/-- The number of ranges that a sequence does not share with the beginning of the one
before. -/
def fresh : List (Nat × Nat) → List (Nat × Nat) → Nat
  | range :: ranges, other :: others =>
    if range = other then fresh ranges others else (range :: ranges).length
  | ranges, _ => ranges.length

/-- Sequences by their first ranges. -/
def byFirst : List (List (Nat × Nat)) → List ((Nat × Nat) × List (List (Nat × Nat)))
  | [] => []
  | [] :: sequences => byFirst sequences
  | (range :: ranges) :: sequences =>
    match byFirst sequences with
    | (other, rests) :: groups =>
      if range = other then (other, ranges :: rests) :: groups
      else (range, [ranges]) :: (other, rests) :: groups
    | [] => [(range, [ranges])]

/-- What may come after the beginnings of sequences of less than `n` ranges, and at their
end. -/
def rests : Nat → List (List (Nat × Nat)) → List (List (List (Nat × Nat)))
  | 0, _ => []
  | n + 1, sequences => sequences :: (byFirst sequences).flatMap fun group => rests n group.2

end Utf8

namespace Regex

/-! ## Programs -/

/-- The direction in which a program reads. -/
inductive Direction where
  | forwards
  | backwards
deriving DecidableEq

/-- The bytes of a state. -/
def stateSize : Nat := 32

/-- The bytes of a transition. -/
def transitionSize : Nat := 8

/-- The bytes of an alternative. -/
def alternativeSize : Nat := 4

/-- The bytes of a state with two alternatives. -/
def forkSize : Nat := stateSize + 2 * alternativeSize

/-- The bytes of the states for a class with some ranges. -/
def classSize (ranges : List (Nat × Nat)) (direction : Direction) : Nat :=
  let sequences := ranges.flatMap fun (first, last) => Utf8.sequences 64 first last
  if ranges.all fun range => range.2 < 0x80 then
    2 * stateSize + transitionSize * ranges.length
  else
    match direction with
    | .forwards =>
      (Utf8.rests 5 sequences).eraseDups.foldl
        (fun size rests => size + stateSize + transitionSize * (Utf8.byFirst rests).length) 0
    | .backwards =>
      (sequences.zip ([] :: sequences)).foldl
        (fun size (ranges, before) =>
          size + alternativeSize + stateSize * Utf8.fresh ranges before)
        (2 * stateSize)

/-- The bytes of the states for a repetition of something of a size: what is there at least is
written out, and so is the rest if there is a limit. -/
def repeatedSize (size : Nat) (matchesEmpty : Bool) (least : Nat) : Option Nat → Nat
  | none =>
    if least = 0 && matchesEmpty then size + 2 * forkSize + stateSize
    else max least 1 * size + forkSize
  | some most =>
    if most = least then least * size
    else
      let required := if least = 0 && most ≠ 1 then stateSize else least * size
      required + (most - least) * (size + forkSize) + stateSize

namespace Form

/-- The bytes of the states for a form.  A choice has one state more for its end, and something
whose text is kept has one at either side. -/
def size (direction : Direction) : Form → Nat
  | empty | look _ => stateSize
  | literal chars => chars.foldl (fun size n => size + stateSize * (Utf8.bytesOf n).length) 0
  | set ranges => classSize ranges direction
  | repeated r least most => repeatedSize (r.size direction) r.matchesEmpty least most
  | kept r => r.size direction + if direction = .forwards then 2 * stateSize else 0
  | seq r s => r.size direction + s.size direction
  | alt r (alt s t) => r.size direction + alternativeSize + (alt s t).size direction
  | alt r s => r.size direction + s.size direction + 2 * alternativeSize + 2 * stateSize

/-- The bytes of a program.  It begins with a loop over any bytes and ends with a state for
the match, and forwards it keeps the text of the match. -/
def programSize (r : Form) (direction : Direction) : Nat :=
  r.kept.size direction + forkSize + (2 * stateSize + transitionSize) + stateSize

/-- Whether a form is a choice between so many texts that they are looked for without being
compiled. -/
def isWordList (r : Form) : Bool :=
  let texts := r.alternatives
  3000 ≤ texts.length && texts.all fun
    | literal _ => true
    | _ => false

end Form

/-! ## Limits -/

/-- How deep the syntax of an expression is nested.  A list of one member is that member. -/
def nesting : Regex → Nat
  | empty | look _ => 0
  | set chars => chars.nesting
  | seq r empty => r.nesting
  | seq r (seq s empty) => max r.nesting s.nesting + 1
  | seq r s => max (r.nesting + 1) s.nesting
  | alt r (alt s t) => max (r.nesting + 1) (alt s t).nesting
  | alt r s => max r.nesting s.nesting + 1
  | repeated r _ _ | group _ r => r.nesting + 1

/-- The bytes that a program may have. -/
def sizeLimit : Nat :=
  10 * Nat.pow 2 20

/-- How deep the syntax of an expression may be nested. -/
def nestingLimit : Nat :=
  250

/-- Whether an expression is small enough to be compiled. -/
def isSmall (r : Regex) : Bool :=
  r.nesting ≤ nestingLimit &&
    (r.form.isWordList || (r.form.programSize .forwards ≤ sizeLimit &&
      r.form.programSize .backwards ≤ sizeLimit))

end Regex

end ApiContract
