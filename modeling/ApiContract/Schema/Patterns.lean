/-
# Compiled patterns

Patterns are read once and kept.  A pattern that cannot be read is not kept.
-/
import ApiContract.Regex.Reader
import ApiContract.Schema.Error

namespace ApiContract

/-- The patterns that have been read. -/
structure Patterns where
  /-- The regular expressions by pattern. -/
  compiled : List (String × Regex)

namespace Patterns

/-- No patterns. -/
def empty : Patterns := ⟨[]⟩

/-- The number of patterns. -/
def size (patterns : Patterns) : Nat :=
  patterns.compiled.length

/-- The regular expression of a pattern, and the patterns with it among them. -/
def get (patterns : Patterns) (source : String) : Except SchemaError (Regex × Patterns) :=
  match patterns.compiled.lookup source with
  | some regex => .ok (regex, patterns)
  | none =>
    match Regex.ofText? source with
    | some regex => .ok (regex, ⟨(source, regex) :: patterns.compiled⟩)
    | none => .error (.invalidPattern source)

end Patterns

end ApiContract
