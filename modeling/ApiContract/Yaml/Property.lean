/-
# Anchors, tags and directives

The names that a node may carry, and the lines before a document that say how tags are to
be read.
-/
import ApiContract.Yaml.Cursor
import ApiContract.Yaml.Token
import ApiContract.Text.Letters
import ApiContract.Text.Utf8

namespace ApiContract.Yaml

/-! ## Anchors -/

/-- Reads the name of an anchor after its indicator. -/
def takeAnchor (s : Cursor) : Option (String × Cursor) :=
  let (name, s) := s.takeWhile isNameChar
  let ends := endsWord s.next || s.next.any ['?', ':', ',', ']', '}', '%', '@', '`'].contains
  if name ≠ [] ∧ ends then some (String.ofList name, s) else none

/-! ## Tags -/

/-- The characters of tags beside those of names. -/
def isTagChar (c : Char) : Bool :=
  isNameChar c || [';', '/', '?', ':', '@', '&', '=', '+', '$', '.', '%', '!', '~', '*', '\'',
    '(', ')'].contains c

/-- Reads the bytes that escapes stand for. -/
def takeEscapes : List Char → List UInt8 × List Char
  | '%' :: a :: b :: cs =>
    match Text.digit? a, Text.digit? b with
    | some m, some n =>
      let (bs, rest) := takeEscapes cs
      (UInt8.ofNat (16 * m + n) :: bs, rest)
    | _, _ => ([], '%' :: a :: b :: cs)
  | cs => ([], cs)

/-- The text of a tag with its escapes replaced. -/
def unescapeTag : Nat → List Char → Option (List Char)
  | 0, _ => some []
  | _ + 1, [] => some []
  | n + 1, '%' :: cs =>
    let (bs, rest) := takeEscapes ('%' :: cs)
    if bs = [] then none
    else do
      let chars ← Utf8.decode? bs
      let tail ← unescapeTag n rest
      some (chars ++ tail)
  | n + 1, c :: cs => (unescapeTag n cs).map (c :: ·)

/-- Reads the characters of a tag; commas and brackets are among them in a tag that is
written out in full. -/
def takeTagText (isFull : Bool) (s : Cursor) : Option (List Char × Cursor) := do
  let (text, s) := s.takeWhile fun c =>
    isTagChar c || (isFull && (c == ',' || c == '[' || c == ']'))
  let plain ← unescapeTag text.length text
  some (plain, s)

/-- Reads a tag handle: an exclamation mark, a name and, unless this is no handle after
all, another exclamation mark. -/
def takeHandle (s : Cursor) : Option (List Char × Cursor) :=
  if s.sees '!' then
    let (name, s') := (s.move 1).takeWhile isNameChar
    if s'.sees '!' then some ('!' :: name ++ ['!'], s'.move 1)
    else some ('!' :: name, s')
  else none

/-- Reads a tag: in full between angle brackets, with a handle, or local. -/
def takeTag (inFlow : Bool) (s : Cursor) : Option (Token × Cursor) := do
  let (token, s) ←
    if s.ahead 1 == some '<' then do
      let (text, s) ← takeTagText true (s.move 2)
      if text = [] || !s.sees '>' then none
      pure (Token.tag "" (String.ofList text), s.move 1)
    else do
      let (handle, s) ← takeHandle s
      let (text, s) ← takeTagText false s
      if 1 < handle.length && handle.getLast? == some '!' then
        if text = [] then none
        pure (Token.tag (String.ofList handle) (String.ofList text), s)
      else
        let suffix := handle.drop 1 ++ text
        pure (if suffix = [] then Token.tag "" "!" else Token.tag "!" (String.ofList suffix), s)
  if endsWord s.next || (inFlow && s.sees ',') then some (token, s) else none

/-! ## Directives -/

/-- Reads a number of at most nine digits. -/
def takeVersionNumber (s : Cursor) : Option (Nat × Cursor) :=
  let (digits, s) := s.takeWhile Char.isDigit
  if digits = [] ∨ 9 < digits.length then none
  else some (digits.foldl (fun n c => 10 * n + (c.toNat - '0'.toNat)) 0, s)

/-- Reads the version after the name of its directive. -/
def takeVersion (s : Cursor) : Option (Token × Cursor) := do
  let (major, s) ← takeVersionNumber (s.skipWhile isBlank)
  if !s.sees '.' then none
  let (minor, s) ← takeVersionNumber (s.move 1)
  some (.version major minor, s)

/-- Reads a handle and its meaning after the name of their directive. -/
def takeHandleMeaning (s : Cursor) : Option (Token × Cursor) := do
  let (handle, s) ← takeHandle (s.skipWhile isBlank)
  if 1 < handle.length && handle.getLast? != some '!' then none
  if !s.next.any isBlank then none
  let (text, s) ← takeTagText true (s.skipWhile isBlank)
  if text = [] || !endsWord s.next then none
  some (.handle (String.ofList handle) (String.ofList text), s)

/-- Reads a directive and the rest of its line after the percent sign. -/
def takeDirective (s : Cursor) : Option (Token × Cursor) := do
  let (name, s) := s.takeWhile isNameChar
  if name = [] || !endsWord s.next then none
  let (token, s) ←
    if String.ofList name = "YAML" then takeVersion s
    else if String.ofList name = "TAG" then takeHandleMeaning s
    else none
  let s := (s.skipWhile isBlank).skipComment
  if endsLine s.next then some (token, s.skipBreak) else none

end ApiContract.Yaml
