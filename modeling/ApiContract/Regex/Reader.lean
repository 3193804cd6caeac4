/-
# Reading regular expressions

The grammar of patterns.  A pattern is refused if it cannot be read, or if it is too large or
too deep to be compiled.  There are no references back into a match, and no
conditions on the text around it beyond the edges of lines and words.
-/
import ApiContract.Regex.Property
import ApiContract.Regex.Size

namespace ApiContract.Regex

/-- The flags that hold at a place in a pattern. -/
structure Flags where
  /-- Letters match in either case. -/
  ignoreCase : Bool
  /-- `^` and `$` match at the edges of lines. -/
  multiLine : Bool
  /-- `.` matches line breaks too. -/
  dotAll : Bool
  /-- Classes reach beyond ASCII. -/
  unicode : Bool
  /-- A carriage return ends lines too. -/
  crlf : Bool
  /-- White space and comments in the pattern are skipped. -/
  verbose : Bool

/-- The flags at the beginning of a pattern. -/
def Flags.standard : Flags :=
  ⟨false, false, false, true, false, false⟩

/-- The flags after one of them is set, if its letter is known. -/
def Flags.set? (flags : Flags) (letter : Char) (on : Bool) : Option Flags :=
  match letter with
  | 'i' => some { flags with ignoreCase := on }
  | 'm' => some { flags with multiLine := on }
  | 's' => some { flags with dotAll := on }
  | 'u' => some { flags with unicode := on }
  | 'R' => some { flags with crlf := on }
  | 'x' => some { flags with verbose := on }
  | 'U' => some flags
  | _ => none

/-- A class with the letters of the other case, if case is ignored. -/
def Flags.fold (flags : Flags) (chars : CharClass) : CharClass :=
  if !flags.ignoreCase then chars
  else if flags.unicode then .folded chars else .foldedAscii chars

/-- A class or its complement.  Without the characters beyond ASCII the complement is
taken among the bytes, and the result must lie in ASCII. -/
def Flags.negate? (flags : Flags) (negated : Bool) (chars : CharClass) : Option CharClass :=
  if flags.unicode then some (if negated then .complement chars else chars)
  else
    let chars := if negated then .inter (.range 0 0xFF) (.complement chars) else chars
    if (List.range 128).any fun n => chars.contains (Char.ofNat (n + 128)) then none
    else some chars

/-- The characters of words under some flags. -/
def Flags.word (flags : Flags) : CharClass :=
  if flags.unicode then .word else .wordAscii

/-- A pattern that is being read. -/
structure Pattern where
  /-- What is left to read. -/
  rest : List Char
  /-- The flags that hold here. -/
  flags : Flags
  /-- The names of groups before. -/
  names : List (List Char)

/-- A part of the grammar. -/
abbrev Reader := StateT Pattern Option

namespace Reader

/-! ## Characters of a pattern -/

/-- A pattern without the white space and the comments it begins with. -/
def dropBlanks (inComment : Bool) : List Char → List Char
  | [] => []
  | c :: cs =>
    if inComment then dropBlanks (c != '\n') cs
    else if c == '#' then dropBlanks true cs
    else if Text.isSpace c then dropBlanks false cs
    else c :: cs

/-- What is left to read. -/
def rest : Reader (List Char) :=
  return (← get).rest

/-- The flags that hold here. -/
def flags : Reader Flags :=
  return (← get).flags

/-- Goes on to a rest of the pattern. -/
def goTo (cs : List Char) : Reader Unit :=
  modify fun p => { p with rest := cs }

/-- Skips what does not count. -/
def skipBlanks : Reader Unit := do
  if (← flags).verbose then goTo (dropBlanks false (← rest))

/-- Takes a character; there must be one. -/
def take : Reader Char := do
  match ← rest with
  | [] => failure
  | c :: cs => goTo cs; return c

/-- Takes a text if it comes next. -/
def takeIf (text : String) : Reader Bool := do
  match Text.dropPrefix? text.toList (← rest) with
  | some cs => goTo cs; return true
  | none => return false

/-- Takes a character and skips what does not count; there must be something left. -/
def advance : Reader Unit := do
  discard take
  skipBlanks
  if (← rest).isEmpty then failure

/-! ## Escapes -/

/-- What stands for a single place in a pattern. -/
inductive Atom where
  /-- A character. -/
  | char (c : Char)
  /-- A byte that is no character. -/
  | byte (n : Nat)
  /-- A class of characters. -/
  | chars (c : CharClass)
  /-- A condition. -/
  | look (condition : Look)

/-- The character with a number, if there is one. -/
def charOf? (n : Nat) : Option Char :=
  if (0xD800 ≤ n ∧ n ≤ 0xDFFF) ∨ 0x10FFFF < n then none else some (Char.ofNat n)

/-- The number that digits of base sixteen denote; there must be digits and nothing
else. -/
def hexNumber? (digits : List Char) : Option Nat :=
  if digits ≠ [] ∧ digits.all (fun c => (Text.digit? c).isSome) then
    some (Unicode.hexNumber digits)
  else none

/-- The characters before a closing brace. -/
def untilBrace : Nat → Reader (List Char)
  | 0 => failure
  | n + 1 => do
    let c ← take
    if c == '}' then return []
    skipBlanks
    return c :: (← untilBrace n)

/-- A given number of characters. -/
def taking : Nat → Reader (List Char)
  | 0 => return []
  | n + 1 => do
    let c ← take
    skipBlanks
    return c :: (← taking n)

/-- A number in base sixteen of `width` digits, or in braces. -/
def hexEscape (width : Nat) : Reader Atom := do
  skipBlanks
  match ← rest with
  | '{' :: cs =>
    goTo cs
    skipBlanks
    let n ← hexNumber? (← untilBrace (cs.length + 1))
    skipBlanks
    return .char (← charOf? n)
  | _ =>
    let n ← hexNumber? (← taking width)
    if width = 2 && !(← flags).unicode && 0x80 ≤ n then return .byte n
    return .char (← charOf? n)

/-- The position of a text in another one, and what comes after it. -/
def cutAt? (mark : String) : List Char → Option (List Char × List Char)
  | [] => none
  | c :: cs =>
    match Text.dropPrefix? mark.toList (c :: cs) with
    | some after => some ([], after)
    | none => (cutAt? mark cs).map fun (before, after) => (c :: before, after)

/-- The class of a property as it is written in braces, and whether it is its
complement. -/
def propertyOf? (written : List Char) : Option (CharClass × Bool) :=
  match cutAt? "!=" written with
  | some (name, value) => (CharClass.ofPropertyValue? name value).map (·, true)
  | none =>
    match cutAt? ":" written <|> cutAt? "=" written with
    | some (name, value) => (CharClass.ofPropertyValue? name value).map (·, false)
    | none => (CharClass.ofProperty? written).map (·, false)

/-- A property of characters. -/
def propertyEscape (negated : Bool) : Reader Atom := do
  skipBlanks
  let (chars, inverse) ←
    match ← rest with
    | '{' :: cs =>
      goTo cs
      skipBlanks
      propertyOf? (← untilBrace (cs.length + 1))
    | _ =>
      let c ← take
      skipBlanks
      propertyOf? [c]
  if !(← flags).unicode then failure
  return .chars (← (← flags).negate? (negated != inverse) ((← flags).fold chars))

/-- The condition that a name in braces after `\b` states. -/
def edgeNamed? (letters : CharClass) (name : String) : Option Look :=
  match name with
  | "start" => some (.wordStart letters)
  | "end" => some (.wordEnd letters)
  | "start-half" => some (.noWordBefore letters)
  | "end-half" => some (.noWordAfter letters)
  | _ => none

/-- The edge of a word, or another condition with a name in braces.  Braces that hold no
name belong to a repetition. -/
def edgeEscape : Reader Atom := do
  let letters := (← flags).word
  match ← rest with
  | '{' :: cs =>
    goTo cs
    skipBlanks
    match ← rest with
    | [] => failure
    | c :: _ =>
      if c.isAlpha || c == '-' then
        let name ← untilBrace (cs.length + 1)
        return .look (← edgeNamed? letters (String.ofList name))
      goTo ('{' :: cs)
      return .look (.edge letters)
  | _ => return .look (.edge letters)

/-- A class with a letter of its own, or its complement if the letter is a capital. -/
def classEscape (letter : Char) : Reader Atom := do
  let flags ← flags
  let chars :=
    match letter.toLower with
    | 'd' => if flags.unicode then CharClass.ofCategories ["Nd"] else .digitAscii
    | 's' => if flags.unicode then .space else .spaceAscii
    | _ => flags.word
  return .chars (← flags.negate? letter.isUpper chars)

/-- What follows a backslash. -/
def escape : Reader Atom := do
  let c ← take
  if c.toNat < 128 && !c.isAlphanum && c != '<' && c != '>' then return .char c
  let letters := (← flags).word
  match c with
  | 'x' => hexEscape 2
  | 'u' => hexEscape 4
  | 'U' => hexEscape 8
  | 'p' => propertyEscape false
  | 'P' => propertyEscape true
  | 'd' | 's' | 'w' | 'D' | 'S' | 'W' => classEscape c
  | 'a' => return .char '\x07'
  | 'f' => return .char '\x0c'
  | 'n' => return .char '\n'
  | 'r' => return .char '\r'
  | 't' => return .char '\t'
  | 'v' => return .char '\x0b'
  | 'A' => return .look .start
  | 'z' => return .look .finish
  | 'b' => edgeEscape
  | 'B' => return .look (.noEdge letters)
  | '<' => return .look (.wordStart letters)
  | '>' => return .look (.wordEnd letters)
  | _ => failure

/-! ## Classes in brackets -/

/-- A member of a class. -/
def classAtom : Reader Atom := do
  match ← take with
  | '\\' => escape
  | c => return .char c

/-- The class of a member; a condition is none, and without the characters beyond ASCII
there are none of them. -/
def atomClass : Atom → Reader CharClass
  | .char c => do
    if !(← flags).unicode && 128 ≤ c.toNat then failure
    return .one c
  | .byte n => return .range n n
  | .chars c => return c
  | .look _ => failure

/-- The code point that an end of a range stands for. -/
def atomPoint : Atom → Reader Nat
  | .char c => do
    if !(← flags).unicode && 128 ≤ c.toNat then failure
    return c.toNat
  | .byte n => return n
  | _ => failure

/-- A member of a class, or a range.  A hyphen before `]` or before another hyphen makes
no range. -/
def classRange : Reader CharClass := do
  let first ← classAtom
  skipBlanks
  match ← rest with
  | [] => failure
  | '-' :: cs =>
    let after := if (← flags).verbose then dropBlanks false cs else cs
    match after.head? with
    | some ']' | some '-' => atomClass first
    | _ =>
      advance
      let last ← classAtom
      let first ← atomPoint first
      let last ← atomPoint last
      if last < first then failure
      return .range first last
  | _ => atomClass first

/-- A class with a name, as in `[:alpha:]`, if one comes next. -/
def classNamed : Reader (Option CharClass) := do
  match ← rest with
  | '[' :: ':' :: cs =>
    let (negated, cs) := match cs with
      | '^' :: cs => (true, cs)
      | cs => (false, cs)
    match cutAt? ":" cs with
    | some (name, ']' :: after) =>
      match CharClass.named.lookup (String.ofList name) with
      | some chars =>
        goTo after
        return some (← (← flags).negate? negated ((← flags).fold chars))
      | none => return none
    | _ => return none
  | _ => return none

/-- How two classes are combined. -/
inductive ClassOp where
  /-- The characters of both. -/
  | inter
  /-- The characters of the first alone. -/
  | diff
  /-- The characters of exactly one. -/
  | symmDiff

/-- The class of an operation. -/
def ClassOp.apply (op : ClassOp) (a b : CharClass) : CharClass :=
  match op with
  | inter => .inter a b
  | diff => .diff a b
  | symmDiff => .symmDiff a b

/-- The members of a class so far. -/
structure Members where
  /-- The characters of any of them. -/
  chars : CharClass
  /-- How many members there are. -/
  count : Nat
  /-- How deep the brackets in a member are nested at most. -/
  nesting : Nat

/-- No members. -/
def Members.none : Members :=
  ⟨.none, 0, 0⟩

/-- The members with one more. -/
def Members.add (members : Members) (chars : CharClass) : Members :=
  ⟨.union members.chars chars, members.count + 1, max members.nesting chars.nesting⟩

/-- How deep the members are nested as one; a list of one member is that member. -/
def Members.depth (members : Members) : Nat :=
  if members.count ≤ 1 then members.nesting else members.nesting + 1

/-- The class so far: what an operation combines it with comes first. -/
def combine (flags : Flags) (left : Option (Members × ClassOp)) (items : Members) : Members :=
  match left with
  | some (before, op) =>
    ⟨op.apply (flags.fold before.chars) (flags.fold items.chars), 1,
      max before.depth items.depth + 1⟩
  | none => items

/-- The hyphens that a class begins with stand for themselves. -/
def leadingHyphens : Nat → Members → Reader Members
  | 0, _ => failure
  | n + 1, items => do
    match ← rest with
    | '-' :: _ =>
      advance
      leadingHyphens n (items.add (.one '-'))
    | _ => return items

/-- The beginning of a class after the bracket: whether it is a complement, and the
members that only count as such at the beginning. -/
def classOpening : Reader (Bool × Members) := do
  let negated := (← rest).head? == some '^'
  if negated then advance
  let items ← leadingHyphens ((← rest).length + 1) .none
  match items.count, ← rest with
  | 0, ']' :: _ =>
    advance
    return (negated, items.add (.one ']'))
  | _, _ => return (negated, items)

mutual

/-- A class in brackets; the bracket comes next. -/
def brackets : Nat → Reader CharClass
  | 0 => failure
  | n + 1 => do
    advance
    let (negated, items) ← classOpening
    let members ← classItems n none items
    let chars ← (← flags).negate? negated ((← flags).fold members.chars)
    return .bracketed (members.depth + 1) chars

/-- The members of a class up to the closing bracket. -/
def classItems : Nat → Option (Members × ClassOp) → Members → Reader Members
  | 0, _, _ => failure
  | n + 1, left, items => do
    skipBlanks
    match ← rest with
    | [] => failure
    | ']' :: cs =>
      goTo cs
      return combine (← flags) left items
    | '[' :: _ =>
      match ← classNamed with
      | some chars => classItems n left (items.add chars)
      | none =>
        let chars ← brackets n
        classItems n left (items.add chars)
    | '&' :: '&' :: cs =>
      goTo cs
      classItems n (some (combine (← flags) left items, .inter)) .none
    | '-' :: '-' :: cs =>
      goTo cs
      classItems n (some (combine (← flags) left items, .diff)) .none
    | '~' :: '~' :: cs =>
      goTo cs
      classItems n (some (combine (← flags) left items, .symmDiff)) .none
    | _ =>
      let chars ← classRange
      classItems n left (items.add chars)

end

/-! ## Repetitions -/

/-- A decimal number of 32 bits, with white space around it. -/
def decimal : Reader (Option Nat) := do
  let cs := (← rest).dropWhile Text.isSpace
  let verbose := (← flags).verbose
  let digits := (if verbose then cs.filter (!Text.isSpace ·) else cs).takeWhile Char.isDigit
  let after := cs.dropWhile fun c => c.isDigit || (verbose && Text.isSpace c)
  goTo (after.dropWhile Text.isSpace)
  skipBlanks
  if digits.isEmpty then return none
  let n := digits.foldl (fun n c => 10 * n + (c.toNat - '0'.toNat)) 0
  if Nat.pow 2 32 ≤ n then failure
  return some n

/-- The bounds of a counted repetition; the brace comes next. -/
def bounds : Reader (Nat × Option Nat) := do
  advance
  let least ← (← decimal)
  let most ←
    match ← rest with
    | ',' :: _ =>
      advance
      match ← rest with
      | '}' :: _ => pure none
      | _ =>
        let most ← (← decimal)
        pure (some most)
    | _ => pure (some least)
  match ← take with
  | '}' =>
    skipBlanks
    discard (takeIf "?")
    if most.any (· < least) then failure
    return (least, most)
  | _ => failure

/-- An expression with the repetitions after it. -/
def repetitions : Nat → Regex → Reader Regex
  | 0, _ => failure
  | n + 1, r => do
    skipBlanks
    match ← rest with
    | '?' :: cs => goTo cs; discard (takeIf "?"); repetitions n (.repeated r 0 (some 1))
    | '*' :: cs => goTo cs; discard (takeIf "?"); repetitions n (.repeated r 0 none)
    | '+' :: cs => goTo cs; discard (takeIf "?"); repetitions n (.repeated r 1 none)
    | '{' :: _ =>
      let (least, most) ← bounds
      repetitions n (.repeated r least most)
    | _ => return r

/-! ## Groups -/

/-- The flags that are set up to a colon or a closing parenthesis, with the character that
ends them, and whether there are any.  No flag and no hyphen comes twice, and a hyphen is
not the last. -/
def settings (on : Bool) (seen : List Char) (flags : Flags) :
    List Char → Option (Flags × Char × List Char)
  | [] => none
  | c :: cs =>
    if c == ':' || c == ')' then
      if seen.head? == some '-' || (c == ')' && seen.isEmpty) then none
      else some (flags, c, cs)
    else if seen.contains c then none
    else if c == '-' then settings false (c :: seen) flags cs
    else (flags.set? c on).bind fun flags => settings on (c :: seen) flags cs

/-- The name of a group up to `>`. -/
def groupName : Reader Unit := do
  let name := (← rest).takeWhile (· != '>')
  goTo ((← rest).drop name.length)
  discard take
  let isLetter (c : Char) := c == '_' || Unicode.isAlphabetic c
  let isDigit (c : Char) := (Unicode.category c).startsWith "N"
  let isPart (c : Char) := isLetter c || isDigit c || c == '.' || c == '[' || c == ']'
  if !(name.head?.any isLetter && name.all isPart) then failure
  if (← get).names.contains name then failure
  modify fun p => { p with names := name :: p.names }

/-- What comes after an opening parenthesis before its contents.  The result says whether the
text that the group takes is kept; there is none if flags stand alone, without contents. -/
def groupOpening : Reader (Option Bool) := do
  skipBlanks
  for mark in ["?=", "?!", "?<=", "?<!"] do
    if ← takeIf mark then failure
  if (← takeIf "?P<") || (← takeIf "?<") then
    groupName
    return some true
  if ← takeIf "?" then
    let (flags, mark, cs) ← settings true [] (← flags) (← rest)
    modify fun p => { p with rest := cs, flags := flags }
    return if mark == ':' then some false else none
  return some true

/-- The expression of an atom that stands alone. -/
def single : Atom → Reader Regex
  | .char c => return .set ((← flags).fold (.one c))
  | .byte _ => failure
  | .chars c => return .set c
  | .look l => return .look l

/-- The class of the point. -/
def point : Reader Regex := do
  let flags ← flags
  if !flags.unicode then failure
  if flags.dotAll then return .set .any
  if flags.crlf then return .set (.complement (.union (.one '\r') (.one '\n')))
  return .set (.complement (.one '\n'))

mutual

/-- Alternatives up to a closing parenthesis or the end. -/
def alternatives : Nat → Reader Regex
  | 0 => failure
  | n + 1 => do
    let r ← sequence n
    match ← rest with
    | '|' :: cs =>
      goTo cs
      return .alt r (← alternatives n)
    | _ => return r

/-- Terms up to the end of an alternative.  Flags that stand alone count as empty. -/
def sequence : Nat → Reader Regex
  | 0 => failure
  | n + 1 => do
    skipBlanks
    match ← rest with
    | [] | '|' :: _ | ')' :: _ => return .empty
    | _ =>
      match ← term n with
      | some r =>
        let r ← repetitions ((← rest).length + 1) r
        return .seq r (← sequence n)
      | none => return .seq .empty (← sequence n)

/-- A term without its repetitions; flags that stand alone are none. -/
def term : Nat → Reader (Option Regex)
  | 0 => failure
  | n + 1 => do
    let flags ← flags
    match ← rest with
    | '[' :: _ => return some (.set (← brackets ((← rest).length + 1)))
    | _ =>
      match ← take with
      | '(' =>
        match ← groupOpening with
        | some isKept =>
          let r ← alternatives n
          if !(← takeIf ")") then failure
          modify fun p => { p with flags := flags }
          return some (.group isKept r)
        | none => return none
      | '?' | '*' | '+' | '{' => failure
      | '\\' => return some (← single (← escape))
      | '.' => return some (← point)
      | '^' => return some (.look (if flags.multiLine then .lineStart flags.crlf else .start))
      | '$' => return some (.look (if flags.multiLine then .lineEnd flags.crlf else .finish))
      | c => return some (← single (.char c))

end

end Reader

/-- The regular expression that a pattern denotes, however large it is. -/
def read? (pattern : String) : Option Regex :=
  let cs := pattern.toList
  match (Reader.alternatives (3 * cs.length + 3)).run ⟨cs, Flags.standard, []⟩ with
  | some (r, ⟨[], _, _⟩) => some r
  | _ => none

/-- The regular expression that a pattern denotes, if it can be compiled. -/
def ofText? (pattern : String) : Option Regex :=
  (read? pattern).filter isSmall

end ApiContract.Regex
