/-
# Tokens

The scanner turns a text into tokens.  Indentation becomes explicit: a block begins with a
start token and ends with `blockEnd`, and the key of a simple pair is marked by `key` even
where the text has no question mark.
-/

namespace ApiContract.Yaml

/-- A token of a document. -/
inductive Token where
  /-- The end of the text. -/
  | streamEnd
  /-- A directive that names the version. -/
  | version (major minor : Nat)
  /-- A directive that gives a tag handle its meaning. -/
  | handle (name meaning : String)
  /-- Three hyphens. -/
  | documentStart
  /-- Three points. -/
  | documentEnd
  /-- A sequence of indented entries begins. -/
  | blockSequence
  /-- A mapping of indented pairs begins. -/
  | blockMapping
  /-- Indentation decreases. -/
  | blockEnd
  /-- An opening bracket. -/
  | flowSequence
  /-- A closing bracket. -/
  | flowSequenceEnd
  /-- An opening brace. -/
  | flowMapping
  /-- A closing brace. -/
  | flowMappingEnd
  /-- The hyphen of an entry. -/
  | blockEntry
  /-- A comma. -/
  | flowEntry
  /-- A key follows. -/
  | key
  /-- A value follows. -/
  | value
  /-- A reference to an anchored node. -/
  | alias (name : String)
  /-- The name of the node that follows. -/
  | anchor (name : String)
  /-- The tag of the node that follows. -/
  | tag (handle suffix : String)
  /-- A text, and whether it stands without quotes and marks. -/
  | scalar (text : String) (isPlain : Bool)
deriving DecidableEq, Repr

end ApiContract.Yaml
