/-
# Places in a text

The scanner moves a cursor over a text.  The cursor knows its line and its column, since
indentation carries meaning, and its index, since a key may only be so long.
-/

namespace ApiContract.Yaml

/-! ## Classes of characters -/

/-- Line breaks. -/
def isBreak (c : Char) : Bool :=
  c == '\n' || c == '\r' || c == '\u0085' || c == '\u2028' || c == '\u2029'

/-- Blanks inside a line. -/
def isBlank (c : Char) : Bool :=
  c == ' ' || c == '\t'

/-- Characters of names: letters and digits of ASCII, the underscore and the hyphen. -/
def isNameChar (c : Char) : Bool :=
  c.isAlphanum || c == '_' || c == '-'

/-- Whether a text ends or breaks here. -/
def endsLine (c : Option Char) : Bool :=
  c.all isBreak

/-- Whether a word ends here. -/
def endsWord (c : Option Char) : Bool :=
  c.all fun c => isBlank c || isBreak c

/-- The characters that a document may hold. -/
def isAllowed (c : Char) : Bool :=
  let n := c.toNat
  n == 0x09 || n == 0x0A || n == 0x0D || (0x20 ≤ n && n ≤ 0x7E) || n == 0x85
    || (0xA0 ≤ n && n ≤ 0xFFFD && n != 0xFEFF) || 0x10000 ≤ n

/-! ## The cursor -/

/-- A place in a text. -/
structure Cursor where
  /-- The text from here on. -/
  rest : List Char
  /-- The number of characters before. -/
  index : Nat
  /-- The number of line breaks before. -/
  line : Nat
  /-- The number of characters before on this line. -/
  column : Nat

namespace Cursor

/-- The beginning of a text. -/
def ofText (cs : List Char) : Cursor :=
  ⟨cs, 0, 0, 0⟩

/-- The character `k` places ahead. -/
def ahead (s : Cursor) (k : Nat) : Option Char :=
  s.rest[k]?

/-- The next character. -/
def next (s : Cursor) : Option Char :=
  s.rest.head?

/-- Whether the next character is the given one. -/
def sees (s : Cursor) (c : Char) : Bool :=
  s.next == some c

/-- Moves on by `k` characters of the line. -/
def move (s : Cursor) (k : Nat) : Cursor :=
  { s with rest := s.rest.drop k, index := s.index + k, column := s.column + k }

/-- The characters from here on that satisfy a condition, and the place after them. -/
def takeWhile (s : Cursor) (p : Char → Bool) : List Char × Cursor :=
  let taken := s.rest.takeWhile p
  (taken, s.move taken.length)

/-- The place after the characters that satisfy a condition. -/
def skipWhile (s : Cursor) (p : Char → Bool) : Cursor :=
  (s.takeWhile p).2

/-- The place after the line. -/
def skipComment (s : Cursor) : Cursor :=
  if s.sees '#' then s.skipWhile fun c => !isBreak c else s

/-- Reads a line break, if there is one.  All but the separators of lines and paragraphs
count as a line feed. -/
def takeBreak (s : Cursor) : List Char × Cursor :=
  match s.rest with
  | '\r' :: '\n' :: cs => (['\n'], ⟨cs, s.index + 2, s.line + 1, 0⟩)
  | c :: cs =>
    if isBreak c then
      (if c == '\u2028' || c == '\u2029' then [c] else ['\n'],
        ⟨cs, s.index + 1, s.line + 1, 0⟩)
    else ([], s)
  | [] => ([], s)

/-- The place after a line break, if there is one. -/
def skipBreak (s : Cursor) : Cursor :=
  s.takeBreak.2

/-- Whether a line begins here with three of a character and then a word ends. -/
def atMarker (s : Cursor) (c : Char) : Bool :=
  s.column == 0 && s.rest.take 3 == [c, c, c] && endsWord (s.ahead 3)

/-- Whether a document begins or ends here. -/
def atDocumentMarker (s : Cursor) : Bool :=
  s.atMarker '-' || s.atMarker '.'

end Cursor

end ApiContract.Yaml
