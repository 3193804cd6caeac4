/-
# Classes of characters

A class is an expression over sets of characters.  It says which characters it contains;
no table is built for it.
-/
import ApiContract.Unicode.CaseFold
import ApiContract.Unicode.Property

namespace ApiContract

/-- A class of characters. -/
inductive CharClass where
  /-- No character. -/
  | none
  /-- The characters from one code point to another. -/
  | range (first last : Nat)
  /-- The characters of a table. -/
  | table (ranges : List (Nat × Nat))
  /-- The alphabetic characters. -/
  | alphabetic
  /-- The characters of words. -/
  | word
  /-- The white space. -/
  | space
  /-- The characters of either class. -/
  | union (a b : CharClass)
  /-- The characters of both classes. -/
  | inter (a b : CharClass)
  /-- The characters that are not in the class. -/
  | complement (a : CharClass)
  /-- The characters that differ from one of the class in case at most. -/
  | folded (a : CharClass)
  /-- The characters of ASCII that differ from one of the class in case at most, and the
  class itself. -/
  | foldedAscii (a : CharClass)
  /-- The characters of a class in brackets, which are nested so deep. -/
  | bracketed (nesting : Nat) (a : CharClass)
deriving DecidableEq

namespace CharClass

/-- Whether a class contains a character. -/
def contains : CharClass → Char → Bool
  | none, _ => false
  | range first last, c => first ≤ c.toNat && c.toNat ≤ last
  | table ranges, c => Unicode.inRanges ranges c
  | alphabetic, c => Unicode.isAlphabetic c
  | word, c => Unicode.isWordChar c
  | space, c => Text.isSpace c
  | union a b, c => a.contains c || b.contains c
  | inter a b, c => a.contains c && b.contains c
  | complement a, c => !a.contains c
  | folded a, c => (Unicode.unfold (Unicode.fold c)).any a.contains
  | foldedAscii a, c => a.contains c || a.contains c.toLower || a.contains c.toUpper
  | bracketed _ a, c => a.contains c

/-- How deep the brackets of a class are nested. -/
def nesting : CharClass → Nat
  | bracketed nesting _ => nesting
  | _ => 0

/-- The class of one character. -/
def one (c : Char) : CharClass :=
  range c.toNat c.toNat

/-- All characters. -/
def any : CharClass :=
  complement none

/-- The characters of one class that are not in another. -/
def diff (a b : CharClass) : CharClass :=
  inter a (complement b)

/-- The characters of exactly one of two classes. -/
def symmDiff (a b : CharClass) : CharClass :=
  union (diff a b) (diff b a)

/-- The characters of any of some classes. -/
def ofList (classes : List CharClass) : CharClass :=
  classes.foldr union none

/-- The digits of ASCII. -/
def digitAscii : CharClass :=
  range '0'.toNat '9'.toNat

/-- The letters of ASCII in lower case. -/
def lowerAscii : CharClass :=
  range 'a'.toNat 'z'.toNat

/-- The letters of ASCII in upper case. -/
def upperAscii : CharClass :=
  range 'A'.toNat 'Z'.toNat

/-- The letters of ASCII. -/
def letterAscii : CharClass :=
  union lowerAscii upperAscii

/-- The characters of words in ASCII. -/
def wordAscii : CharClass :=
  ofList [letterAscii, digitAscii, one '_']

/-- The white space of ASCII. -/
def spaceAscii : CharClass :=
  ofList [range 9 13, one ' ']

/-- The classes of ASCII by name. -/
def named : List (String × CharClass) := [
  ("alnum", union letterAscii digitAscii),
  ("alpha", letterAscii),
  ("ascii", range 0 0x7F),
  ("blank", union (one ' ') (one '\t')),
  ("cntrl", union (range 0 0x1F) (one '\x7f')),
  ("digit", digitAscii),
  ("graph", range 0x21 0x7E),
  ("lower", lowerAscii),
  ("print", range 0x20 0x7E),
  ("punct", ofList [range 0x21 0x2F, range 0x3A 0x40, range 0x5B 0x60, range 0x7B 0x7E]),
  ("space", spaceAscii),
  ("upper", upperAscii),
  ("word", wordAscii),
  ("xdigit", ofList [digitAscii, range 'a'.toNat 'f'.toNat, range 'A'.toNat 'F'.toNat])]

end CharClass

end ApiContract
