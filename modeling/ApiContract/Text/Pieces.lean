/-
# Cutting and joining texts

Texts are handled as lists of characters.  `split` and `join` are inverse to each other
as long as the separator does not occur inside a piece.
-/

namespace ApiContract.Text

/-- The pieces between the occurrences of a separator: always at least one. -/
def split (sep : Char) : List Char → List (List Char)
  | [] => [[]]
  | c :: cs =>
    if c = sep then [] :: split sep cs
    else match split sep cs with
      | [] => [[c]]
      | piece :: pieces => (c :: piece) :: pieces

/-- Pieces joined by a separator. -/
def join (sep : Char) : List (List Char) → List Char
  | [] => []
  | [piece] => piece
  | piece :: pieces => piece ++ sep :: join sep pieces

theorem split_ne_nil (sep : Char) (cs : List Char) : split sep cs ≠ [] := by
  cases cs with
  | nil => simp [split]
  | cons c cs =>
    rw [split]
    split
    · simp
    · split <;> simp

/-- The text up to the first occurrence of a separator and the text after it. -/
def cut (sep : Char) : List Char → Option (List Char × List Char)
  | [] => none
  | c :: cs =>
    if c = sep then some ([], cs)
    else (cut sep cs).map fun (before, after) => (c :: before, after)

/-- The rest of a text after a given beginning. -/
def dropPrefix? (start : List Char) : List Char → Option (List Char) :=
  match start with
  | [] => some
  | s :: start => fun
    | [] => none
    | c :: cs => if c = s then dropPrefix? start cs else none

/-- The beginning of a text before a given end. -/
def dropSuffix? (stop cs : List Char) : Option (List Char) :=
  (dropPrefix? stop.reverse cs.reverse).map List.reverse

/-- Every occurrence of a two-character sequence replaced, from left to right. -/
def replacePair (a b : Char) (new : Char) : List Char → List Char
  | [] => []
  | [c] => [c]
  | c :: d :: cs =>
    if c = a ∧ d = b then new :: replacePair a b new cs
    else c :: replacePair a b new (d :: cs)

/-- Every occurrence of a character replaced by a text. -/
def replaceChar (c : Char) (new : List Char) (cs : List Char) : List Char :=
  cs.flatMap fun d => if d = c then new else [d]

/-- Strings joined by a separator. -/
def joinStrings (sep : String) (parts : List String) : String :=
  sep.intercalate parts

end ApiContract.Text
