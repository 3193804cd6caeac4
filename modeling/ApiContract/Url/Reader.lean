/-
# Reading URLs

A URL is read on its own or against a base.  Tabs and line breaks do not count, nor do
controls and spaces at the ends.
-/
import ApiContract.Url.Basic
import ApiContract.Url.Host

namespace ApiContract.Url

/-! ## Classes of characters -/

/-- Characters that stand as they are in a fragment. -/
def inFragment (c : Char) : Bool :=
  !isControl c && !([' ', '"', '<', '>', '`'].contains c)

/-- Characters that stand as they are in a path. -/
def inPath (c : Char) : Bool :=
  inFragment c && !(['#', '?', '{', '}'].contains c)

/-- Characters that stand as they are before a host. -/
def inUserInfo (c : Char) : Bool :=
  inPath c && !(['/', ':', ';', '=', '@', '[', '\\', ']', '^', '|'].contains c)

/-- Characters that stand as they are in a query. -/
def inQuery (kind : SchemeKind) (c : Char) : Bool :=
  !isControl c && !([' ', '"', '#', '<', '>'].contains c) && !(kind.isSpecial && c == '\'')

/-- Whether a character counts as a slash. -/
def isSlash (kind : SchemeKind) (c : Char) : Bool :=
  c == '/' || (kind.isSpecial && c == '\\')

/-- Slashes and backslashes. -/
def isAnySlash (c : Char) : Bool :=
  c == '/' || c == '\\'

/-- Where a path ends. -/
def endsPath (c : Char) : Bool :=
  c == '?' || c == '#'

/-! ## Paths -/

/-- Whether a segment names a drive, as in `C:` or `C|`. -/
def isDrive (segment : List Char) : Bool :=
  match segment with
  | [c, d] => c.isAlpha && (d == ':' || d == '|')
  | _ => false

/-- Whether a segment names a drive in its usual form. -/
def isUsualDrive (segment : List Char) : Bool :=
  match segment with
  | [c, ':'] => c.isAlpha
  | _ => false

/-- Whether a segment stands for the parent. -/
def isParent (segment : List Char) : Bool :=
  ["..", "%2e%2e", "%2e.", ".%2e"].contains (String.ofList (segment.map Char.toLower))

/-- Whether a segment stands for the place itself. -/
def isHere (segment : List Char) : Bool :=
  [".", "%2e"].contains (String.ofList (segment.map Char.toLower))

/-- A path without its last segment; a drive is never removed. -/
def parent (kind : SchemeKind) (parts : List (List Char)) : List (List Char) :=
  if kind == .file && parts.getLast?.any isUsualDrive then parts else parts.dropLast

/-- A path with a segment added, and whether the segment named a drive; `isLast` says that
no slash follows the segment. -/
def addSegment (kind : SchemeKind) (isLast : Bool) (parts : List (List Char))
    (segment : List Char) : List (List Char) × Bool :=
  if isParent segment then (parent kind parts ++ (if isLast then [[]] else []), false)
  else if isHere segment then (parts ++ (if isLast then [[]] else []), false)
  else if kind == .file && parts.isEmpty && isDrive segment then
    ([segment.take 1 ++ [':']], true)
  else (parts ++ [segment], false)

/-- Adds the segments of a text.  The result says whether one of them named a drive. -/
def addSegments (kind : SchemeKind) :
    List (List Char) → Bool → List Char → List Char → List (List Char) × Bool
  | parts, isDrive, segment, [] =>
    let (parts, drive) := addSegment kind true parts segment.reverse
    (parts, isDrive || drive)
  | parts, isDrive, segment, c :: cs =>
    if isSlash kind c then
      let (parts, drive) := addSegment kind false parts segment.reverse
      addSegments kind parts (isDrive || drive) [] cs
    else
      addSegments kind parts isDrive ((Percent.encodeExcept inPath [c]).reverse ++ segment) cs

/-- The empty segments at the beginning of the path of a file do not count. -/
def dropEmpty : List (List Char) → List (List Char)
  | [] :: part :: parts => dropEmpty (part :: parts)
  | parts => parts

/-- Reads a path after its first slash, onto segments before it: the path, whether it
named a drive, and the text after it. -/
def readPath (kind : SchemeKind) (parts : List (List Char)) (cs : List Char) :
    UrlPath × Bool × List Char :=
  let text := cs.takeWhile fun c => !endsPath c
  let (parts, drive) := addSegments kind parts false [] text
  let parts := if kind == .file then dropEmpty parts else parts
  (.segments parts, drive, cs.dropWhile fun c => !endsPath c)

/-- Reads the path after an authority. -/
def readPathStart (kind : SchemeKind) (cs : List Char) : UrlPath × Bool × List Char :=
  match cs with
  | [] => if kind.isSpecial then readPath kind [] [] else (.segments [], false, [])
  | c :: rest =>
    if isSlash kind c then readPath kind [] rest
    else if !kind.isSpecial && endsPath c then (.segments [], false, cs)
    else readPath kind [] cs

/-! ## Query and fragment -/

/-- Reads a fragment, if there is one. -/
def readFragment? (cs : List Char) : Option (List Char) :=
  match cs with
  | '#' :: cs => some (Percent.encodeExcept inFragment cs)
  | _ => none

/-- Reads what follows the path. -/
def readEnd (u : Url) (cs : List Char) : Url :=
  let kind := SchemeKind.of u.scheme
  match cs with
  | '?' :: cs =>
    let query := cs.takeWhile (· != '#')
    { u with
      query := some (Percent.encodeExcept (inQuery kind) query)
      fragment := readFragment? (cs.dropWhile (· != '#')) }
  | cs => { u with query := none, fragment := readFragment? cs }

/-- The URL with its fragment replaced. -/
def withFragment (u : Url) (cs : List Char) : Url :=
  { u with fragment := some (Percent.encodeExcept inFragment (cs.drop 1)) }

/-! ## Authorities -/

/-- The text up to the last `@` of an authority and the text after it. -/
def cutUser (kind : SchemeKind) (cs : List Char) : Option (List Char × List Char) :=
  let authority := cs.takeWhile fun c => !(isSlash kind c || endsPath c)
  let after := (authority.reverse.takeWhile (· != '@')).length
  if after = authority.length then none
  else
    let before := authority.length - after - 1
    some (cs.take before, cs.drop (before + 1))

/-- The encoded form of a user and a password.  An empty password leaves no colon. -/
def userInfoText (cs : List Char) : List Char :=
  let encode := Percent.encodeExcept inUserInfo
  match Text.cut ':' cs with
  | none => encode cs
  | some (user, password) =>
    encode user ++ (if password = [] then [] else ':' :: encode password)

/-- The length of a host, up to the number of the service or the path. -/
def hostLength (kind : SchemeKind) : Bool → List Char → Nat
  | _, [] => 0
  | inBrackets, c :: cs =>
    if (c == ':' && !inBrackets) || c == '/' || endsPath c || (kind.isSpecial && c == '\\') then 0
    else 1 + hostLength kind (c == '[' || (inBrackets && c != ']')) cs

/-- Reads the number of a service: the text after it must end the authority. -/
def readService? (scheme : List Char) (cs : List Char) : Option (Option Nat × List Char) :=
  let digits := cs.takeWhile Char.isDigit
  let rest := cs.dropWhile Char.isDigit
  let n := digits.foldl (fun n c => 10 * n + (c.toNat - '0'.toNat)) 0
  if !rest.head?.all (fun c => isAnySlash c || endsPath c) || 65535 < n then none
  else if digits = [] || usualService? scheme == some n then some (none, rest)
  else some (some n, rest)

/-- The user of an authority and the text after it.  There must be a host after an empty
user. -/
def readUser? (kind : SchemeKind) (cs : List Char) : Option (List Char × List Char) :=
  match cutUser kind cs with
  | none => some ([], cs)
  | some ([], rest) =>
    if rest.head?.any fun c => isSlash kind c || endsPath c then none else some ([], rest)
  | some (user, rest) => some (userInfoText user, rest)

/-- Reads a host.  Only a scheme that is not special has empty ones. -/
def readHost? (kind : SchemeKind) (hostText : List Char) : Option (List Char) :=
  if kind.isSpecial then
    if hostText = [] then none else webHost? hostText
  else otherHost? hostText

/-- Reads what follows the host of an authority, up to the path. -/
def readAfterHost? (scheme : List Char) (cs : List Char) : Option (Option Nat × List Char) :=
  match cs with
  | ':' :: rest => readService? scheme rest
  | rest => some (none, rest)

/-- Reads what follows the two slashes before an authority. -/
def readAuthority? (scheme : List Char) (cs : List Char) : Option Url := do
  let kind := SchemeKind.of scheme
  let (user, cs) ← readUser? kind cs
  let length := hostLength kind false cs
  let host ← readHost? kind (cs.take length)
  let rest := cs.drop length
  if host = [] && (rest.head? == some ':' || user ≠ []) then none
  else
    let (service, rest) ← readAfterHost? scheme rest
    let (path, _, rest) := readPathStart kind rest
    some (readEnd ⟨scheme, user, some host, service, path, none, none⟩ rest)

/-! ## Files -/

/-- The scheme of files. -/
def fileScheme : List Char := ['f', 'i', 'l', 'e']

/-- A file without a host. -/
def file (path : UrlPath) : Url :=
  ⟨fileScheme, [], some [], none, path, none, none⟩

/-- Whether a text begins with the name of a drive as a segment of its own. -/
def startsWithDrive (cs : List Char) : Bool :=
  isDrive (cs.take 2) && (cs.drop 2).head?.all fun c => isAnySlash c || endsPath c

/-- Reads the host of a file.  The host itself need not be named. -/
def localHost? (hostText : List Char) : Option (List Char) :=
  if hostText = [] then some []
  else (webHost? hostText).map fun host => if String.ofList host = "localhost" then [] else host

/-- Reads the host of a file, and what follows. -/
def readFileHost? (cs : List Char) : Option Url := do
  let hostText := cs.takeWhile fun c => !(isAnySlash c || endsPath c)
  if isDrive hostText then
    let (path, _, rest) := readPath .file [] cs
    some (readEnd (file path) rest)
  else
    let rest := cs.drop hostText.length
    let host ← localHost? hostText
    let (path, drive, rest) := readPathStart .file rest
    some (readEnd { file path with host := some (if drive then [] else host) } rest)

/-- The path up to the drive of a base. -/
def basePath (base : Option Url) : List (List Char) :=
  match base with
  | some ⟨_, _, _, _, .segments parts, _, _⟩ => parts
  | _ => []

/-- Reads a file, after the colon of its scheme or against a file as base. -/
def readFile? (base : Option Url) (cs : List Char) : Option Url :=
  let plain (cs : List Char) : Url :=
    let (path, _, rest) := readPath .file [] cs
    readEnd (file path) rest
  match cs with
  | c :: d :: rest =>
    if isAnySlash c && isAnySlash d then readFileHost? rest
    else if isAnySlash c then some (rooted (d :: rest))
    else relative plain
  | [c] => if isAnySlash c then some (rooted []) else relative plain
  | [] => relative plain
where
  /-- Reads a path from the root of the base. -/
  rooted (cs : List Char) : Url :=
    let first := (basePath base).head?.getD []
    let (parts, host) :=
      if startsWithDrive cs then ([], [])
      else match base with
        | none => ([], [])
        | some b => if isUsualDrive first then ([first], []) else ([], b.host.getD [])
    let (path, _, rest) := readPath .file parts cs
    readEnd { file path with host := some host } rest
  /-- Reads a path against the path of the base. -/
  relative (plain : List Char → Url) : Option Url :=
    match base with
    | none => some (plain cs)
    | some b =>
      match cs with
      | [] => some { b with fragment := none }
      | '?' :: _ => some (readEnd { b with query := none } cs)
      | '#' :: _ => some (withFragment b cs)
      | _ =>
        if startsWithDrive cs then some (plain cs)
        else
          let (path, _, rest) := readPath .file (parent .file (basePath base)) cs
          some (readEnd { b with path } rest)

/-! ## URLs -/

/-- Reads a reference against a base of its own kind. -/
def readRelative? (base : Url) (cs : List Char) : Option Url :=
  let kind := SchemeKind.of base.scheme
  match cs with
  | [] => some { base with fragment := none }
  | '?' :: _ => some (readEnd base cs)
  | '#' :: _ => some (withFragment base cs)
  | c :: rest =>
    if isAnySlash c then
      if rest.head?.any isAnySlash then
        readAuthority? base.scheme <|
          if c == '/' && rest.head? == some '/' then rest.drop 1 else cs.dropWhile isAnySlash
      else
        let (path, _, rest) := readPath kind [] rest
        some (readEnd { base with path } rest)
    else
      let (path, _, rest) := readPath kind (parent kind (basePath (some base))) cs
      some (readEnd { base with path } rest)

/-- The scheme at the beginning of a text and the text after its colon. -/
def cutScheme (cs : List Char) : Option (List Char × List Char) := do
  let (scheme, rest) ← Text.cut ':' cs
  let isScheme := scheme.head?.any Char.isAlpha &&
    scheme.all fun c => c.isAlphanum || c == '+' || c == '-' || c == '.'
  if isScheme then some (scheme.map Char.toLower, rest) else none

/-- Reads what follows the colon of a scheme. -/
def readAfterScheme? (base : Option Url) (scheme cs : List Char) : Option Url :=
  match SchemeKind.of scheme with
  | .file => readFile? (base.filter fun b => SchemeKind.of b.scheme == .file) cs
  | .web =>
    let slashes := (cs.takeWhile isAnySlash).length
    match base.filter fun b => b.scheme = scheme && slashes < 2 with
    | some b => readRelative? b cs
    | none => readAuthority? scheme (cs.drop slashes)
  | .other =>
    match cs with
    | '/' :: '/' :: rest => readAuthority? scheme rest
    | '/' :: rest =>
      let (path, _, rest) := readPath .other [] rest
      some (readEnd ⟨scheme, [], none, none, path, none, none⟩ rest)
    | cs =>
      let text := cs.takeWhile fun c => !endsPath c
      let path := UrlPath.opaqueText (Percent.encodeExcept (fun c => !isControl c) text)
      some (readEnd ⟨scheme, [], none, none, path, none, none⟩
        (cs.dropWhile fun c => !endsPath c))

/-- The characters of a text that count. -/
def significant (cs : List Char) : List Char :=
  let isEdge (c : Char) : Bool := c.toNat ≤ 0x20
  let trimmed := ((cs.dropWhile isEdge).reverse.dropWhile isEdge).reverse
  trimmed.filter fun c => !(c == '\t' || c == '\n' || c == '\r')

/-- Reads a URL, possibly against a base. -/
def readAgainst? (base : Option Url) (text : List Char) : Option Url :=
  let cs := significant text
  match cutScheme cs with
  | some (scheme, rest) => readAfterScheme? base scheme rest
  | none =>
    match base with
    | none => none
    | some b =>
      if cs.head? = some '#' then some (withFragment b cs)
      else if b.isOpaque then none
      else if SchemeKind.of b.scheme = .file then readFile? base cs
      else readRelative? b cs

/-- Reads a URL. -/
def read? (text : List Char) : Option Url :=
  readAgainst? none text

/-- Reads a reference against a base. -/
def join? (base : Url) (reference : List Char) : Option Url :=
  readAgainst? (some base) reference

end ApiContract.Url
