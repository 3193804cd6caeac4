/-
# Pointers

A path leads from a value to one inside it, by keys and by indices.  It is written as a
pointer: every step after a slash, in which `~` and `/` are written `~0` and `~1`.
-/
import ApiContract.Value.Basic
import ApiContract.Text.Percent

namespace ApiContract

/-- A step into an object or an array. -/
inductive PathStep where
  /-- The value under a key. -/
  | key (name : String)
  /-- The item at an index. -/
  | index (i : Nat)
deriving DecidableEq, Repr

namespace PathStep

/-- The text of a step. -/
def text : PathStep → List Char
  | key name => name.toList
  | index i => Text.decimalDigits i

end PathStep

namespace Pointer

/-! ## Writing -/

/-- A part of a pointer with `~` and `/` escaped. -/
def escape (cs : List Char) : List Char :=
  Text.replaceChar '/' ['~', '1'] (Text.replaceChar '~' ['~', '0'] cs)

/-- The pointer of a path. -/
def write (path : List PathStep) : List Char :=
  path.flatMap fun step => '/' :: escape step.text

/-- The text of the pointer of a path. -/
def text (path : List PathStep) : String :=
  String.ofList (write path)

/-! ## Reading -/

/-- A part of a pointer with its escapes undone. -/
def unescape (cs : List Char) : List Char :=
  Text.replacePair '~' '0' '~' (Text.replacePair '~' '1' '/' cs)

/-- The value that a part of a pointer leads to. -/
def step? (part : List Char) : Value → Option Value
  | .array items => (Number.readUnsigned64? part).bind (items[·]?)
  | .object fields => fields.lookup (String.ofList part)
  | _ => none

/-- The value that parts of a pointer lead to. -/
def walk? : List (List Char) → Value → Option Value
  | [], v => some v
  | part :: parts, v => (step? (unescape part) v).bind (walk? parts)

/-- The value that a pointer leads to.  Slashes at the beginning do not count, and the
pointer may be percent-encoded. -/
def resolve? (pointer : List Char) (document : Value) : Option Value :=
  match pointer.dropWhile (· = '/') with
  | [] => some document
  | rest => (Percent.decode? rest).bind fun decoded => walk? (Text.split '/' decoded) document

end Pointer

end ApiContract
