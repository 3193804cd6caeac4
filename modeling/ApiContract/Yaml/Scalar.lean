/-
# Scalars

The three ways to write a text: plain, in quotes, and as an indented block.  A line break
inside a plain or quoted text counts as a space, and of several breaks all but the first
count.
-/
import ApiContract.Yaml.Cursor
import ApiContract.Text.Letters

namespace ApiContract.Yaml

/-! ## Folding -/

/-- The white space between two words of a text. -/
structure Gap where
  /-- The blanks, as long as there is no break. -/
  blanks : List Char
  /-- The first break. -/
  first : Option (List Char)
  /-- The breaks after the first one. -/
  more : List Char

/-- No white space. -/
def Gap.empty : Gap := ⟨[], none, []⟩

/-- What a first break and the breaks after it stand for. -/
def foldBreaks (first more : List Char) : List Char :=
  if first = ['\n'] then (if more = [] then [' '] else more) else first ++ more

/-- What the white space stands for. -/
def Gap.folded (gap : Gap) : List Char :=
  match gap.first with
  | none => gap.blanks
  | some first => foldBreaks first gap.more

/-- Reads white space.  After a break, a tab left of `indent` is refused. -/
def takeGap (indent : Nat) : Nat → Gap → Cursor → Option (Gap × Cursor)
  | 0, gap, s => some (gap, s)
  | n + 1, gap, s =>
    match s.next with
    | none => some (gap, s)
    | some c =>
      if isBlank c then
        if gap.first.isSome && s.column < indent && c == '\t' then none
        else if gap.first.isSome then takeGap indent n gap (s.move 1)
        else takeGap indent n { gap with blanks := gap.blanks ++ [c] } (s.move 1)
      else if isBreak c then
        let (text, s) := s.takeBreak
        if gap.first.isSome then takeGap indent n { gap with more := gap.more ++ text } s
        else takeGap indent n { gap with first := some text } s
      else some (gap, s)

/-! ## Plain scalars -/

/-- The characters that stand for structure inside brackets. -/
def isFlowIndicator (c : Char) : Bool :=
  c == ',' || c == '[' || c == ']' || c == '{' || c == '}'

/-- Reads the word that begins here, up to white space or an indicator.  Inside brackets a
colon must not stand directly before an indicator. -/
def takeWord (inFlow : Bool) : Nat → List Char → Cursor → Option (List Char × Cursor)
  | 0, word, s => some (word.reverse, s)
  | n + 1, word, s =>
    match s.next with
    | none => some (word.reverse, s)
    | some c =>
      if isBlank c || isBreak c then some (word.reverse, s)
      else if inFlow && c == ':' && (s.ahead 1).any (fun c => isFlowIndicator c || c == '?') then
        none
      else if c == ':' && endsWord (s.ahead 1) then some (word.reverse, s)
      else if inFlow && isFlowIndicator c then some (word.reverse, s)
      else takeWord inFlow n (c :: word) (s.move 1)

/-- Reads a plain text: words and the white space between them.  Outside brackets a line
that is not indented ends it.  The result says whether a break follows the last word. -/
def takePlain (inFlow : Bool) (indent : Nat) :
    Nat → List Char → Gap → Cursor → Option (List Char × Bool × Cursor)
  | 0, text, gap, s => some (text, gap.first.isSome, s)
  | n + 1, text, gap, s => do
    if s.atDocumentMarker || s.sees '#' then return (text, gap.first.isSome, s)
    let (word, s') ← takeWord inFlow (s.rest.length + 1) [] s
    let text := if word = [] then text else text ++ gap.folded ++ word
    let gap := if word = [] then gap else Gap.empty
    if !(s'.next.any fun c => isBlank c || isBreak c) then
      return (text, gap.first.isSome, s')
    let (gap, s'') ← takeGap indent (s'.rest.length + 1) gap s'
    if !inFlow && s''.column < indent then return (text, gap.first.isSome, s'')
    takePlain inFlow indent n text gap s''

/-! ## Quoted scalars -/

/-- The character that a letter stands for after a backslash. -/
def escape? (c : Char) : Option Char :=
  match c with
  | '0' => some '\x00'
  | 'a' => some '\x07'
  | 'b' => some '\x08'
  | 't' => some '\t'
  | '\t' => some '\t'
  | 'n' => some '\n'
  | 'v' => some '\x0b'
  | 'f' => some '\x0c'
  | 'r' => some '\r'
  | 'e' => some '\x1b'
  | ' ' => some ' '
  | '"' => some '"'
  | '/' => some '/'
  | '\\' => some '\\'
  | 'N' => some '\u0085'
  | '_' => some '\u00a0'
  | 'L' => some '\u2028'
  | 'P' => some '\u2029'
  | _ => none

/-- The number of digits that follow a letter after a backslash. -/
def codeLength? (c : Char) : Option Nat :=
  match c with
  | 'x' => some 2
  | 'u' => some 4
  | 'U' => some 8
  | _ => none

/-- The character whose code is given by digits of base sixteen. -/
def ofCode? (digits : List Char) : Option Char := do
  let n ← digits.foldlM (fun n c => (Text.digit? c).map fun d => 16 * n + d) 0
  if (0xD800 ≤ n ∧ n ≤ 0xDFFF) ∨ 0x10FFFF < n then none else some (Char.ofNat n)

/-- Reads the part of a quoted text up to its end or up to white space.  The result says
whether the part ends with an escaped line break. -/
def takeQuotedPart (quote : Char) :
    Nat → List Char → Cursor → Option (List Char × Bool × Cursor)
  | 0, _, _ => none
  | n + 1, part, s =>
    match s.next with
    | none => some (part.reverse, false, s)
    | some c =>
      if isBlank c || isBreak c then some (part.reverse, false, s)
      else if c == quote then
        if quote == '\'' && s.ahead 1 == some '\'' then
          takeQuotedPart quote n ('\'' :: part) (s.move 2)
        else some (part.reverse, false, s)
      else if quote == '"' && c == '\\' then
        match s.ahead 1 with
        | none => none
        | some d =>
          if isBreak d then some (part.reverse, true, (s.move 1).skipBreak)
          else
            match codeLength? d with
            | some k =>
              let digits := (s.rest.drop 2).take k
              if digits.length < k then none
              else
                match ofCode? digits with
                | some e => takeQuotedPart quote n (e :: part) (s.move (2 + k))
                | none => none
            | none =>
              match escape? d with
              | some e => takeQuotedPart quote n (e :: part) (s.move 2)
              | none => none
      else takeQuotedPart quote n (c :: part) (s.move 1)

/-- Reads a quoted text after its opening quote. -/
def takeQuoted (quote : Char) : Nat → List Char → Cursor → Option (List Char × Cursor)
  | 0, _, _ => none
  | n + 1, text, s => do
    if s.atDocumentMarker || s.next.isNone then none
    let (part, broken, s) ← takeQuotedPart quote (s.rest.length + 1) [] s
    let text := text ++ part
    if s.sees quote then return (text, s.move 1)
    let gap := if broken then ⟨[], some [], []⟩ else Gap.empty
    let (gap, s) ← takeGap 0 (s.rest.length + 1) gap s
    takeQuoted quote n (text ++ gap.folded) s

/-! ## Block scalars -/

/-- What happens to the breaks at the end of a block. -/
inductive Chomping where
  /-- All are dropped. -/
  | strip
  /-- The first one stays. -/
  | clip
  /-- All stay. -/
  | keep
deriving DecidableEq, Repr

/-- Reads the marks after the indicator of a block: how its end is treated, and by how
much it is indented. -/
def takeHeader (s : Cursor) : Option (Chomping × Option Nat × Cursor) :=
  let chomping (s : Cursor) : Option Chomping :=
    if s.sees '+' then some .keep else if s.sees '-' then some .strip else none
  let indent (s : Cursor) : Option Nat := s.next.bind (Text.digitBelow? 10)
  match chomping s with
  | some c =>
    match indent (s.move 1) with
    | some 0 => none
    | some n => some (c, some n, s.move 2)
    | none => some (c, none, s.move 1)
  | none =>
    match indent s with
    | some 0 => none
    | some n =>
      match chomping (s.move 1) with
      | some c => some (c, some n, s.move 2)
      | none => some (.clip, some n, s.move 1)
    | none => some (.clip, none, s)

/-- Reads indentation and empty lines.  The result is the greatest column that was
reached, the breaks, and the place of the next line with content. -/
def takeIndent (indent : Option Nat) :
    Nat → Nat → List Char → Cursor → Option (Nat × List Char × Cursor)
  | 0, _, _, _ => none
  | n + 1, most, breaks, s =>
    let room := match indent with
      | some k => k - s.column
      | none => s.rest.length
    let s := s.move (((s.rest.take room).takeWhile (· == ' ')).length)
    let most := max most s.column
    if (indent.all fun k => s.column < k) && s.sees '\t' then none
    else
      match s.next with
      | some c =>
        if isBreak c then
          let (text, s) := s.takeBreak
          takeIndent indent n most (breaks ++ text) s
        else some (most, breaks, s)
      | none => some (most, breaks, s)

/-- A block as far as it has been read. -/
structure Block where
  /-- The text. -/
  text : List Char
  /-- The break after the last line. -/
  pending : List Char
  /-- The breaks of the empty lines after it. -/
  empties : List Char
  /-- Whether the last line begins with a blank. -/
  blank : Bool

/-- Adds a line to a block.  A folded block turns the single break between two lines that
do not begin with a blank into a space, and drops it if empty lines follow. -/
def Block.add (isLiteral : Bool) (b : Block) (line : List Char) : Block :=
  let blank := line.head?.any isBlank
  let between :=
    if !isLiteral && b.pending = ['\n'] && !b.blank && !blank then
      (if b.empties = [] then [' '] else [])
    else b.pending
  { text := b.text ++ between ++ b.empties ++ line, pending := [], empties := [], blank }

/-- Reads the lines of a block. -/
def takeLines (isLiteral : Bool) (indent : Nat) : Nat → Block → Cursor → Option (Block × Cursor)
  | 0, _, _ => none
  | n + 1, b, s => do
    if s.column ≠ indent || s.next.isNone then return (b, s)
    let (line, s) := s.takeWhile fun c => !isBreak c
    let (pending, s) := s.takeBreak
    let (_, empties, s) ← takeIndent (some indent) (s.rest.length + 1) 0 [] s
    takeLines isLiteral indent n { b.add isLiteral line with pending, empties } s

/-- Reads a block after its indicator; `parent` is the indentation around it. -/
def takeBlock (isLiteral : Bool) (parent : Option Nat) (s : Cursor) :
    Option (List Char × Cursor) := do
  let (chomping, increment, s) ← takeHeader s
  let s := (s.skipWhile isBlank).skipComment
  if !endsLine s.next then none
  let s := s.skipBreak
  let known := increment.map fun n => parent.getD 0 + n
  let (most, empties, s) ← takeIndent known (s.rest.length + 1) 0 [] s
  let least := match parent with
    | some n => n + 1
    | none => 1
  let indent := known.getD (max most least)
  let (b, s) ← takeLines isLiteral indent (s.rest.length + 1) ⟨[], [], empties, false⟩ s
  match chomping with
  | .strip => return (b.text, s)
  | .clip => return (b.text ++ b.pending, s)
  | .keep => return (b.text ++ b.pending ++ b.empties, s)

end ApiContract.Yaml
