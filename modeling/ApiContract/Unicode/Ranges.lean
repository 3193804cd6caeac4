/-
# Ranges of code points

Tables of characters are written as lines of text: ranges of code points in base sixteen,
separated by blanks.
-/
import ApiContract.Text.Pieces
import ApiContract.Text.Letters

namespace ApiContract.Unicode

/-- The number that digits of base sixteen denote. -/
def hexNumber (cs : List Char) : Nat :=
  cs.foldl (fun n c => 16 * n + (Text.digit? c).getD 0) 0

/-- A code point, or the first and the last one of a range with a hyphen between. -/
def readRange (cs : List Char) : Nat × Nat :=
  match Text.cut '-' cs with
  | some (first, last) => (hexNumber first, hexNumber last)
  | none => (hexNumber cs, hexNumber cs)

/-- The entries of a table: the lines, each split at its blanks. -/
def entries (table : List String) : List (List Char) :=
  table.flatMap fun line => Text.split ' ' line.toList

/-- The ranges of a table. -/
def readRanges (table : List String) : List (Nat × Nat) :=
  (entries table).map readRange

/-- Named ranges: the names, a colon and the ranges, both separated by commas. -/
def readNamedRanges (table : List String) : List (List String × List (Nat × Nat)) :=
  (entries table).filterMap fun entry =>
    (Text.cut ':' entry).map fun (names, ranges) =>
      ((Text.split ',' names).map String.ofList, (Text.split ',' ranges).map readRange)

/-- The ranges with a name; they may be spread over several entries. -/
def rangesNamed? (table : List (List String × List (Nat × Nat))) (name : String) :
    Option (List (Nat × Nat)) :=
  match table.filter fun entry => entry.1.contains name with
  | [] => none
  | entries => some (entries.flatMap Prod.snd)

/-- Runs of code points: the length of each, and its name in two letters.  The result has
the first code point after each run. -/
def readRuns (table : List String) : List (Nat × String) :=
  let runs := (entries table).map fun entry =>
    (hexNumber (entry.take (entry.length - 2)), String.ofList (entry.drop (entry.length - 2)))
  (runs.foldl
    (fun (before : Nat × List (Nat × String)) (length, name) =>
      (before.1 + length, (before.1 + length, name) :: before.2))
    (0, [])).2.reverse

/-- Ascending ranges that lie apart, with one more. -/
def insertRange (first last : Nat) : List (Nat × Nat) → List (Nat × Nat)
  | [] => [(first, last)]
  | (a, b) :: ranges =>
    if last + 1 < a then (first, last) :: (a, b) :: ranges
    else if b + 1 < first then (a, b) :: insertRange first last ranges
    else insertRange (min first a) (max last b) ranges

/-- Ascending ranges that lie apart, with some more. -/
def insertRanges (more ranges : List (Nat × Nat)) : List (Nat × Nat) :=
  more.foldr (fun range ranges => insertRange range.1 range.2 ranges) ranges

/-- What ascending ranges leave over from a code point on. -/
def gaps (first : Nat) : List (Nat × Nat) → List (Nat × Nat)
  | [] => if first ≤ 0x10FFFF then [(first, 0x10FFFF)] else []
  | (a, b) :: ranges =>
    if first < a then (first, a - 1) :: gaps (b + 1) ranges else gaps (b + 1) ranges

/-- Whether a character lies in one of some ranges. -/
def inRanges (ranges : List (Nat × Nat)) (c : Char) : Bool :=
  ranges.any fun (first, last) => first ≤ c.toNat && c.toNat ≤ last

end ApiContract.Unicode
