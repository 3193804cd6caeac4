/-
# From a text to tokens

Only where a colon follows does the text show that what came before was a key.  Therefore
the lexer remembers where a key may have begun, once for every level of brackets, and puts
the missing tokens there when it meets the colon.
-/
import ApiContract.Yaml.Scalar
import ApiContract.Yaml.Property

namespace ApiContract.Yaml

/-- A place where a key may have begun. -/
structure PossibleKey where
  /-- Whether the place is at the indentation of a block, where only a key may begin. -/
  isRequired : Bool
  /-- The number of tokens before. -/
  tokens : Nat
  /-- The number of characters before. -/
  index : Nat
  /-- The line. -/
  line : Nat
  /-- The column. -/
  column : Nat

/-- The state of the lexer. -/
structure Lexer where
  /-- The place in the text. -/
  cursor : Cursor
  /-- The tokens so far, the last one first. -/
  tokens : List Token
  /-- The indentation of the current block; none outside every block. -/
  indent : Option Nat
  /-- The indentations of the enclosing blocks. -/
  indents : List (Option Nat)
  /-- Whether a key may begin here. -/
  keyAllowed : Bool
  /-- Where a key of the current level may have begun. -/
  key : Option PossibleKey
  /-- Where a key of each enclosing level may have begun; one for every open bracket. -/
  outer : List (Option PossibleKey)

namespace Lexer

/-- Whether the lexer is inside brackets. -/
def inFlow (l : Lexer) : Bool :=
  !l.outer.isEmpty

/-- Adds a token. -/
def push (l : Lexer) (t : Token) : Lexer :=
  { l with tokens := t :: l.tokens }

/-- Adds a token and moves on by the characters of its indicator. -/
def pushMove (l : Lexer) (t : Token) (k : Nat) : Lexer :=
  { l with tokens := t :: l.tokens, cursor := l.cursor.move k }

/-- Puts a token after the first `n` tokens. -/
def insertAt (l : Lexer) (n : Nat) (t : Token) : Lexer :=
  let later := l.tokens.length - n
  { l with tokens := l.tokens.take later ++ t :: l.tokens.drop later }

/-! ## Indentation -/

/-- Whether a column lies right of the indentation. -/
def isDeeper (column : Nat) (indent : Option Nat) : Bool :=
  indent.all (· < column)

/-- Opens a block if the column lies right of the current one; its start token goes after
the first `n` tokens. -/
def openBlock (l : Lexer) (column n : Nat) (t : Token) : Lexer :=
  if !l.inFlow && isDeeper column l.indent then
    { l.insertAt n t with indent := some column, indents := l.indent :: l.indents }
  else l

/-- Closes the blocks that lie right of a column, or all blocks; `indents` holds the
enclosing ones. -/
def closeBlocks (column : Option Nat) : List (Option Nat) → Lexer → Lexer
  | [], l => l
  | outer :: indents, l =>
    let isOpen := match l.indent, column with
      | some _, none => true
      | some k, some c => c < k
      | none, _ => false
    if isOpen then
      closeBlocks column indents { l.push .blockEnd with indent := outer, indents }
    else l

/-- Closes blocks, unless inside brackets. -/
def unindent (l : Lexer) (column : Option Nat) : Lexer :=
  if l.inFlow then l else closeBlocks column l.indents l

/-! ## Possible keys -/

/-- Forgets the possible key of the current level; a required one must not be lost. -/
def dropKey (l : Lexer) : Option Lexer :=
  match l.key with
  | some k => if k.isRequired then none else some { l with key := none }
  | none => some l

/-- Notes that a key may begin here. -/
def saveKey (l : Lexer) : Option Lexer :=
  if l.keyAllowed then do
    let s := l.cursor
    let isRequired := !l.inFlow && l.indent == some s.column
    let l ← l.dropKey
    some { l with key := some ⟨isRequired, l.tokens.length, s.index, s.line, s.column⟩ }
  else some l

/-- Whether a possible key is too far back: on an earlier line or more than 1024
characters before. -/
def isStale (s : Cursor) (k : PossibleKey) : Bool :=
  k.line < s.line || k.index + 1024 < s.index

/-- A possible key, forgotten if it is too far back; a required one must not be. -/
def refreshKey (s : Cursor) : Option PossibleKey → Option (Option PossibleKey)
  | some k => if isStale s k then (if k.isRequired then none else some none) else some (some k)
  | none => some none

/-- Forgets the possible keys that are too far back. -/
def dropStale (l : Lexer) : Option Lexer := do
  let key ← refreshKey l.cursor l.key
  let outer ← l.outer.mapM (refreshKey l.cursor)
  some { l with key, outer }

/-! ## Tokens -/

/-- Moves to the next token over white space, comments and line breaks.  At the beginning
of a line a tab is no white space, except inside brackets. -/
def skipToToken : Nat → Lexer → Lexer
  | 0, l => l
  | n + 1, l =>
    let s := l.cursor.skipWhile fun c => c == ' ' || ((l.inFlow || !l.keyAllowed) && c == '\t')
    let s := s.skipComment
    if s.next.any isBreak then
      skipToToken n { l with cursor := s.skipBreak, keyAllowed := l.keyAllowed || !l.inFlow }
    else { l with cursor := s }

/-- The lexer before a directive or a document marker: outside every block, without a
possible key. -/
def leaveBlocks (l : Lexer) : Option Lexer := do
  let l ← (l.unindent none).dropKey
  some { l with keyAllowed := false }

/-- Reads a node that may be a key. -/
def node (l : Lexer) (read : Cursor → Option (Token × Cursor)) : Option Lexer := do
  let l ← l.saveKey
  let (t, s) ← read l.cursor
  some { l with tokens := t :: l.tokens, cursor := s, keyAllowed := false }

/-- Reads an opening bracket. -/
def openBracket (l : Lexer) (t : Token) : Option Lexer := do
  let l ← l.saveKey
  some { l.pushMove t 1 with key := none, outer := l.key :: l.outer, keyAllowed := true }

/-- Reads a closing bracket. -/
def closeBracket (l : Lexer) (t : Token) : Option Lexer := do
  let l ← l.dropKey
  let l := match l.outer with
    | [] => l
    | key :: outer => { l with key, outer }
  some { l.pushMove t 1 with keyAllowed := false }

/-- Reads the hyphen of an entry. -/
def entry (l : Lexer) : Option Lexer := do
  if !l.inFlow && !l.keyAllowed then none
  let l ← (l.openBlock l.cursor.column l.tokens.length .blockSequence).dropKey
  some { l.pushMove .blockEntry 1 with keyAllowed := true }

/-- Reads the question mark of a key. -/
def explicitKey (l : Lexer) : Option Lexer := do
  if !l.inFlow && !l.keyAllowed then none
  let l ← (l.openBlock l.cursor.column l.tokens.length .blockMapping).dropKey
  some { l.pushMove .key 1 with keyAllowed := !l.inFlow }

/-- Reads the colon before a value.  If a key may have begun before, it did. -/
def colon (l : Lexer) : Option Lexer :=
  match l.key with
  | some k =>
    let l := (l.insertAt k.tokens .key).openBlock k.column k.tokens .blockMapping
    some { l.pushMove .value 1 with key := none, keyAllowed := false }
  | none => do
    if !l.inFlow && !l.keyAllowed then none
    let l := l.openBlock l.cursor.column l.tokens.length .blockMapping
    some { l.pushMove .value 1 with keyAllowed := !l.inFlow }

/-- Reads a plain scalar.  After a line break a key may begin. -/
def plain (l : Lexer) : Option Lexer := do
  let l ← l.saveKey
  let indent := match l.indent with
    | some k => k + 1
    | none => 0
  let s := l.cursor
  let (text, broken, s) ← takePlain l.inFlow indent (s.rest.length + 1) [] Gap.empty s
  some { l with
    tokens := .scalar (String.ofList text) true :: l.tokens
    cursor := s
    keyAllowed := broken }

/-- Reads an indented block. -/
def block (l : Lexer) (isLiteral : Bool) : Option Lexer := do
  let l ← l.dropKey
  let (text, s) ← takeBlock isLiteral l.indent (l.cursor.move 1)
  some { l with
    tokens := .scalar (String.ofList text) false :: l.tokens
    cursor := s
    keyAllowed := true }

/-- Reads a text in quotes. -/
def quoted (quote : Char) (s : Cursor) : Option (Token × Cursor) := do
  let (text, s) ← takeQuoted quote (s.rest.length + 1) [] (s.move 1)
  some (.scalar (String.ofList text) false, s)

/-- Whether a plain scalar may begin with a character, given the one that follows. -/
def startsPlain (inFlow : Bool) (c : Char) (d : Option Char) : Bool :=
  !(isBlank c || isBreak c || ['-', '?', ':', ',', '[', ']', '{', '}', '#', '&', '*', '!', '|',
      '>', '\'', '"', '%', '@', '`'].contains c)
    || (c == '-' && !d.any isBlank)
    || (!inFlow && (c == '?' || c == ':') && !endsWord d)

/-- Reads the token that begins with a character. -/
def token (l : Lexer) (c : Char) : Option Lexer :=
  let s := l.cursor
  let endsHere := endsWord (s.ahead 1)
  if s.column == 0 && c == '%' then do
    let l ← l.leaveBlocks
    let (t, s) ← takeDirective (s.move 1)
    some { l with tokens := t :: l.tokens, cursor := s }
  else if s.atMarker '-' then l.leaveBlocks.map (·.pushMove .documentStart 3)
  else if s.atMarker '.' then l.leaveBlocks.map (·.pushMove .documentEnd 3)
  else if c == '[' then l.openBracket .flowSequence
  else if c == '{' then l.openBracket .flowMapping
  else if c == ']' then l.closeBracket .flowSequenceEnd
  else if c == '}' then l.closeBracket .flowMappingEnd
  else if c == ',' then
    l.dropKey.map fun l => { l.pushMove .flowEntry 1 with keyAllowed := true }
  else if c == '-' && endsHere then l.entry
  else if c == '?' && (l.inFlow || endsHere) then l.explicitKey
  else if c == ':' && (l.inFlow || endsHere) then l.colon
  else if c == '*' then
    l.node fun s => (takeAnchor (s.move 1)).map fun (name, s) => (.alias name, s)
  else if c == '&' then
    l.node fun s => (takeAnchor (s.move 1)).map fun (name, s) => (.anchor name, s)
  else if c == '!' then l.node (takeTag l.inFlow)
  else if c == '|' && !l.inFlow then l.block true
  else if c == '>' && !l.inFlow then l.block false
  else if c == '\'' || c == '"' then l.node (quoted c)
  else if startsPlain l.inFlow c (s.ahead 1) then l.plain
  else none

/-- Reads tokens to the end of the text. -/
def run : Nat → Lexer → Option (List Token)
  | 0, _ => none
  | n + 1, l => do
    let l ← (skipToToken (l.cursor.rest.length + 1) l).dropStale
    let l := l.unindent (some l.cursor.column)
    match l.cursor.next with
    | some c => run n (← l.token c)
    | none =>
      let l ← l.leaveBlocks
      some (l.push .streamEnd).tokens.reverse

end Lexer

/-- The tokens of a text; none if the text is ill-formed. -/
def Token.scan? (text : List Char) : Option (List Token) :=
  let cs := match text with
    | '\uFEFF' :: cs => cs
    | cs => cs
  if cs.all isAllowed then
    Lexer.run (cs.length + 2) ⟨Cursor.ofText cs, [], none, [], true, none, []⟩
  else none

end ApiContract.Yaml
