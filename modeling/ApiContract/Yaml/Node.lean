/-
# From tokens to nodes

The tokens of a document form a tree of nodes.  Anchors are numbered in such a way that a
name that is used again may share its number with the next new name; an alias refers to
the last node with its number.
-/
import ApiContract.Yaml.Token

namespace ApiContract.Yaml

/-- A node of a document. -/
inductive Node where
  /-- A text. -/
  | scalar (tag : Option String) (isPlain : Bool) (text : String)
  /-- A sequence of nodes. -/
  | sequence (tag : Option String) (items : List Node)
  /-- A sequence of pairs of nodes. -/
  | mapping (tag : Option String) (pairs : List (Node × Node))
  /-- A reference to the node with a number. -/
  | alias (number : Nat)

namespace Node

/-- The node of a missing text. -/
def empty : Node := scalar none true ""

end Node

/-- A document. -/
structure Tree where
  /-- The topmost node; none if there is no document at all. -/
  root : Option Node
  /-- The anchored nodes and their numbers, the last one first. -/
  anchors : List (Nat × Node)
  /-- The number of beginnings and ends of nodes. -/
  size : Nat

/-- The state of composing nodes. -/
structure Composer where
  /-- The tokens still to come. -/
  tokens : List Token
  /-- The meanings of tag handles. -/
  handles : List (String × String)
  /-- The numbers of the anchors, the last one first. -/
  numbers : List (String × Nat)
  /-- Where the node of each number begins, the last one first. -/
  places : List (Nat × Nat)
  /-- The anchored nodes by the place where they begin. -/
  nodes : List (Nat × Node)
  /-- The number of beginnings and ends of nodes so far. -/
  size : Nat

/-- A step of composing nodes, which may find the tokens out of order. -/
abbrev Compose := StateT Composer Option

namespace Compose

/-- The next token. -/
def peek : Compose Token := do
  return (← get).tokens.headD .streamEnd

/-- Moves on by one token. -/
def next : Compose Unit :=
  modify fun s => { s with tokens := s.tokens.drop 1 }

/-- Takes a token if it comes next. -/
def take? (t : Token) : Compose Bool := do
  if (← peek) = t then
    next
    return true
  else return false

/-- Counts the beginning or the end of a node. -/
def count : Compose Unit :=
  modify fun s => { s with size := s.size + 1 }

/-- A missing node. -/
def missing : Compose Node := do
  count
  return Node.empty

/-! ## Anchors and tags -/

/-- Gives an anchor a number: the number of different names so far. -/
def declare (name : String) : Compose Unit :=
  modify fun s =>
    let number := (s.numbers.map Prod.fst).eraseDups.length
    { s with
      numbers := (name, number) :: s.numbers
      places := (number, s.size) :: s.places }

/-- Notes a node that begins at a place. -/
def note (place : Nat) (node : Node) : Compose Unit :=
  modify fun s => { s with nodes := (place, node) :: s.nodes }

/-- The full text of a tag. -/
def tagText (handle suffix : String) : Compose String := do
  if handle = "" then return suffix
  else match (← get).handles.lookup handle with
    | some meaning => return meaning ++ suffix
    | none => failure

/-- Reads the anchor and the tag of a node, in either order. -/
def properties : Compose (Option String × Option String) := do
  match ← peek with
  | .anchor name =>
    next
    match ← peek with
    | .tag handle suffix =>
      next
      return (some name, some (← tagText handle suffix))
    | _ => return (some name, none)
  | .tag handle suffix =>
    next
    match ← peek with
    | .anchor name =>
      next
      return (some name, some (← tagText handle suffix))
    | _ => return (none, some (← tagText handle suffix))
  | _ => return (none, none)

/-! ## Nodes -/

/-- Where a node stands. -/
inductive Position where
  /-- Inside brackets. -/
  | flow
  /-- In a block. -/
  | block
  /-- In a pair of a block, where the entries of a sequence need no indentation. -/
  | pair
deriving DecidableEq

mutual

/-- Reads a node. -/
def node : Nat → Position → Compose Node
  | 0, _ => failure
  | n + 1, position => do
    match ← peek with
    | .alias name =>
      next
      match (← get).numbers.lookup name with
      | some number =>
        count
        return .alias number
      | none => failure
    | _ =>
      let (anchor, tag) ← properties
      match anchor with
      | some name =>
        let place := (← get).size
        declare name
        let v ← content n position true tag
        note place v
        return v
      | none => content n position false tag

/-- Reads the content of a node.  A node with an anchor or a tag may be empty. -/
def content : Nat → Position → Bool → Option String → Compose Node
  | 0, _, _, _ => failure
  | n + 1, position, isNamed, tag => do
    count
    match position, ← peek with
    | .pair, .blockEntry =>
      let items ← bareEntries n []
      return .sequence tag items
    | _, .scalar text isPlain =>
      next
      return .scalar (if tag = some "!" then none else tag) isPlain text
    | _, .flowSequence =>
      next
      let items ← flowItems n true []
      return .sequence tag items
    | _, .flowMapping =>
      next
      let pairs ← flowPairs n true []
      return .mapping tag pairs
    | .flow, _ => if isNamed || tag.isSome then return .scalar tag true "" else failure
    | _, .blockSequence =>
      next
      let items ← blockItems n []
      return .sequence tag items
    | _, .blockMapping =>
      next
      let pairs ← blockPairs n []
      return .mapping tag pairs
    | _, _ => if isNamed || tag.isSome then return .scalar tag true "" else failure

/-- Reads the entries of a block sequence; `before` holds the entries so far, the last one
first. -/
def blockItems : Nat → List Node → Compose (List Node)
  | 0, _ => failure
  | n + 1, before => do
    match ← peek with
    | .blockEntry =>
      next
      let t ← peek
      let v ← if t = .blockEntry ∨ t = .blockEnd then missing else node n .block
      blockItems n (v :: before)
    | .blockEnd =>
      next
      count
      return before.reverse
    | _ => failure

/-- Reads the entries of a sequence that is not indented. -/
def bareEntries : Nat → List Node → Compose (List Node)
  | 0, _ => failure
  | n + 1, before => do
    match ← peek with
    | .blockEntry =>
      next
      let t ← peek
      let v ←
        if t = .blockEntry ∨ t = .key ∨ t = .value ∨ t = .blockEnd then missing
        else node n .block
      bareEntries n (v :: before)
    | _ =>
      count
      return before.reverse

/-- Reads a key or a value of a block mapping after its indicator. -/
def blockSide : Nat → Compose Node
  | 0 => failure
  | n + 1 => do
    let t ← peek
    if t = .key ∨ t = .value ∨ t = .blockEnd then missing else node n .pair

/-- Reads the pairs of a block mapping.  A key or a value may be missing. -/
def blockPairs : Nat → List (Node × Node) → Compose (List (Node × Node))
  | 0, _ => failure
  | n + 1, before => do
    match ← peek with
    | .key =>
      next
      let k ← blockSide n
      let v ← if ← take? .value then blockSide n else missing
      blockPairs n ((k, v) :: before)
    | .blockEnd =>
      next
      count
      return before.reverse
    | _ => failure

/-- Reads the pair that stands as an item of a sequence in brackets, after its key
indicator. -/
def flowPair : Nat → Compose Node
  | 0 => failure
  | n + 1 => do
    count
    let t ← peek
    let k ←
      if t = .value ∨ t = .flowEntry ∨ t = .flowSequenceEnd then do
        next
        missing
      else node n .flow
    let v ←
      if ← take? .value then do
        let t ← peek
        if t = .flowEntry ∨ t = .flowSequenceEnd then missing else node n .flow
      else missing
    count
    return .mapping none [(k, v)]

/-- Reads the items of a sequence in brackets up to the closing one.  A comma may follow
the last item. -/
def flowItems : Nat → Bool → List Node → Compose (List Node)
  | 0, _, _ => failure
  | n + 1, first, before => do
    if ← take? .flowSequenceEnd then
      count
      return before.reverse
    if !first && !(← take? .flowEntry) then failure
    match ← peek with
    | .key =>
      next
      let v ← flowPair n
      flowItems n false (v :: before)
    | .flowSequenceEnd =>
      next
      count
      return before.reverse
    | _ =>
      let v ← node n .flow
      flowItems n false (v :: before)

/-- Reads the pairs of a mapping in braces up to the closing one. -/
def flowPairs : Nat → Bool → List (Node × Node) → Compose (List (Node × Node))
  | 0, _, _ => failure
  | n + 1, first, before => do
    if ← take? .flowMappingEnd then
      count
      return before.reverse
    if !first && !(← take? .flowEntry) then failure
    match ← peek with
    | .key =>
      next
      let t ← peek
      let k ←
        if t = .value ∨ t = .flowEntry ∨ t = .flowMappingEnd then missing else node n .flow
      let v ←
        if ← take? .value then do
          let t ← peek
          if t = .flowEntry ∨ t = .flowMappingEnd then missing else node n .flow
        else missing
      flowPairs n false ((k, v) :: before)
    | .flowMappingEnd =>
      next
      count
      return before.reverse
    | _ =>
      let k ← node n .flow
      let v ← missing
      flowPairs n false ((k, v) :: before)

end

/-! ## Documents -/

/-- Reads the directives before a document; `hasVersion` says whether one has named the
version. -/
def directives : Nat → Bool → List (String × String) → Compose Bool
  | 0, _, _ => failure
  | n + 1, hasVersion, handles => do
    match ← peek with
    | .version major minor =>
      if hasVersion || major ≠ 1 || (minor ≠ 1 && minor ≠ 2) then failure
      next
      directives n true handles
    | .handle name meaning =>
      if (handles.lookup name).isSome then failure
      next
      directives n hasVersion ((name, meaning) :: handles)
    | _ =>
      modify fun s =>
        { s with handles := handles ++ [("!", "!"), ("!!", "tag:yaml.org,2002:")] }
      return hasVersion || !handles.isEmpty

/-- Skips the ends of documents. -/
def documentEnds : Nat → Compose Unit
  | 0 => failure
  | n + 1 => do
    if ← take? .documentEnd then documentEnds n

/-- Reads a stream of at most one document. -/
def document (fuel : Nat) : Compose (Option Node) := do
  if (← peek) = .streamEnd then return none
  let hasDirectives ← directives fuel false []
  let isExplicit ← take? .documentStart
  if hasDirectives && !isExplicit then failure
  let t ← peek
  let root ←
    if isExplicit && (t = .documentStart || t = .documentEnd || t = .streamEnd) then missing
    else node fuel .block
  documentEnds fuel
  if (← peek) = .streamEnd then return some root else failure

end Compose

/-- The document of a sequence of tokens; none if they are out of order or hold more than
one document. -/
def Tree.ofTokens? (tokens : List Token) : Option Tree := do
  let fuel := 4 * tokens.length + 4
  let start : Composer := ⟨tokens, [], [], [], [], 0⟩
  let (root, s) ← (Compose.document fuel).run start
  let anchors := s.places.filterMap fun (number, place) =>
    (s.nodes.lookup place).map fun v => (number, v)
  some ⟨root, anchors, s.size⟩

end ApiContract.Yaml
