/-
# Regular expressions

A regular expression matches a text if it matches anywhere inside it.  Matching follows
the set of places that can be reached: an expression takes the places where it may begin
to the places where it may end.
-/
import ApiContract.Regex.Class

namespace ApiContract

/-- A condition on the characters around a place. -/
inductive Look where
  /-- The beginning of the text. -/
  | start
  /-- The end of the text. -/
  | finish
  /-- The beginning of a line; `crlf` if a carriage return ends lines too. -/
  | lineStart (crlf : Bool)
  /-- The end of a line; `crlf` if a carriage return ends lines too. -/
  | lineEnd (crlf : Bool)
  /-- An edge of a word. -/
  | edge (letters : CharClass)
  /-- No edge of a word. -/
  | noEdge (letters : CharClass)
  /-- The beginning of a word. -/
  | wordStart (letters : CharClass)
  /-- The end of a word. -/
  | wordEnd (letters : CharClass)
  /-- No word before the place. -/
  | noWordBefore (letters : CharClass)
  /-- No word after the place. -/
  | noWordAfter (letters : CharClass)
deriving DecidableEq

/-- A regular expression. -/
inductive Regex where
  /-- The empty text. -/
  | empty
  /-- One character of a class. -/
  | set (chars : CharClass)
  /-- A condition on the place. -/
  | look (condition : Look)
  /-- One expression after another. -/
  | seq (r s : Regex)
  /-- Either of two expressions. -/
  | alt (r s : Regex)
  /-- An expression at least `least` times, and at most `most` times if there is a limit. -/
  | repeated (r : Regex) (least : Nat) (most : Option Nat)
  /-- An expression in parentheses, and whether the text that it takes is kept. -/
  | group (isKept : Bool) (r : Regex)

namespace Look

/-- Whether a condition holds between two characters; there is none at an end of the
text. -/
def holds (before after : Option Char) : Look → Bool
  | start => before.isNone
  | finish => after.isNone
  | lineStart false => before.all (· == '\n')
  | lineEnd false => after.all (· == '\n')
  | lineStart true => before.all (· == '\n') || (before == some '\r' && after != some '\n')
  | lineEnd true =>
    after.isNone || after == some '\r' || (after == some '\n' && before != some '\r')
  | edge letters => before.any letters.contains != after.any letters.contains
  | noEdge letters => before.any letters.contains == after.any letters.contains
  | wordStart letters => !before.any letters.contains && after.any letters.contains
  | wordEnd letters => before.any letters.contains && !after.any letters.contains
  | noWordBefore letters => !before.any letters.contains
  | noWordAfter letters => !after.any letters.contains

end Look

namespace Regex

/-! ## Sets of places -/

/-- The union of two ascending lists without repetitions. -/
def union : List Nat → List Nat → List Nat
  | [], ys => ys
  | xs, [] => xs
  | x :: xs, y :: ys =>
    if x < y then x :: union xs (y :: ys)
    else if y < x then y :: union (x :: xs) ys
    else x :: union xs ys
termination_by xs ys => xs.length + ys.length

/-- Marks places. -/
def mark (marks : Array Bool) (places : List Nat) : Array Bool :=
  places.foldl (fun marks place => marks.setIfInBounds place true) marks

/-- The marked places. -/
def marked (marks : Array Bool) : List Nat :=
  (List.range marks.size).filter fun place => marks.getD place false

/-- Marks the places reached from some places by at most `n` steps; the places to start
from are marked, and places that are marked already are not visited again. -/
def spread (step : List Nat → List Nat) : Nat → Array Bool → List Nat → Array Bool
  | 0, marks, _ => marks
  | n + 1, marks, places =>
    match (step places).filter fun place => !marks.getD place true with
    | [] => marks
    | fresh => spread step n (mark marks fresh) fresh

/-- The places reached from some of the places below `size` by at most `n` steps. -/
def closure (step : List Nat → List Nat) (size n : Nat) (places : List Nat) : List Nat :=
  marked (spread step n (mark (Array.replicate size false) places) places)

/-- The places reached by exactly `n` steps. -/
def steps (step : List Nat → List Nat) : Nat → List Nat → List Nat
  | 0, places => places
  | n + 1, places => if places = [] then [] else steps step n (step places)

/-! ## Matching -/

/-- The character before a place. -/
def before (text : Array Char) (place : Nat) : Option Char :=
  if place = 0 then none else text[place - 1]?

/-- The places where an expression may end if it may begin at the given ones. -/
def ends (text : Array Char) : Regex → List Nat → List Nat
  | empty, places => places
  | set chars, places =>
    places.filterMap fun place =>
      if text[place]?.any chars.contains then some (place + 1) else none
  | look condition, places =>
    places.filter fun place => condition.holds (before text place) text[place]?
  | seq r s, places => s.ends text (r.ends text places)
  | alt r s, places => union (r.ends text places) (s.ends text places)
  | repeated r least most, places =>
    let least' := steps (r.ends text) least places
    match most with
    | none => closure (r.ends text) (text.size + 1) (text.size + 1) least'
    | some most => closure (r.ends text) (text.size + 1) (most - least) least'
  | group _ r, places => r.ends text places

/-- Whether an expression matches somewhere in a text. -/
def isMatch (r : Regex) (text : String) : Bool :=
  let chars := text.toList.toArray
  r.ends chars (List.range (chars.size + 1)) ≠ []

end Regex

end ApiContract
