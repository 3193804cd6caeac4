/-
# Violations

A violation says which constraint an instance breaks, where the instance breaks it, and
where the schema states it.  Its context holds the violations that led to it; their paths
are relative to its own.
-/
import ApiContract.Schema.Format
import ApiContract.Schema.Keyword
import ApiContract.Schema.Pointer
import ApiContract.Schema.Error
import ApiContract.Value.Reader
import ApiContract.Number.Numeral

namespace ApiContract

/-! ## Faults of transport -/

/-- What is wrong with the way a parameter or a query is written. -/
inductive StyleError where
  /-- A pair has no `=`. -/
  | malformedPair (pair : String)
  /-- A key has no value. -/
  | oddPairs (count : Nat)
  /-- A field of a query has no `=`. -/
  | malformedQuery (field : String)
deriving DecidableEq, Repr

/-- The wording of an error. -/
def StyleError.message : StyleError → String
  | malformedPair pair => s!"malformed key=value pair {Text.inQuotes pair}"
  | oddPairs count => s!"expected key,value pairs but found {count} element(s)"
  | malformedQuery field => s!"bad query field {Text.inQuotes field}"

/-- Why a text does not convert to the type that a schema declares; `V` is the type of
violations. -/
inductive CoercionFault (V : Type) where
  /-- The text is no truth value. -/
  | boolean (text : String)
  /-- The text is no integer. -/
  | integer (fault : Number.IntegerFault)
  /-- The integer is out of range. -/
  | outOfRange (value : Int) (format : String)
  /-- The text is no number. -/
  | number (fault : Number.NumeralFault)
  /-- No member of a union takes the value. -/
  | noCandidate (value : String) (violations : List V)
  /-- The schema is broken. -/
  | schema (error : SchemaError)

/-- The wording of a fault. -/
def CoercionFault.message {V : Type} : CoercionFault V → String
  | boolean text => s!"{Text.inQuotes text} is not a boolean"
  | integer fault => fault.message
  | outOfRange value format => rangeText value format
  | number fault => fault.message
  | noCandidate value _ => s!"{Text.inQuotes value} does not match any candidate type"
  | schema error => error.message

/-! ## Violations -/

/-- What lies behind a violation; `V` is the type of violations. -/
inductive Cause (V : Type) where
  /-- A format does not take the value. -/
  | format (fault : FormatFault)
  /-- A text does not convert. -/
  | coercion (fault : CoercionFault V)
  /-- A text is not written in its style. -/
  | style (error : StyleError)
  /-- A body is no JSON. -/
  | json (fault : JsonFault)

/-- A constraint that an instance breaks. -/
structure Violation where
  /-- What is wrong. -/
  message : String
  /-- The keyword that states the constraint. -/
  keyword : Option Keyword
  /-- The path to the value, from the instance or from the violation it is in. -/
  path : List PathStep
  /-- The path to the constraint, from the schema or from the violation it is in. -/
  schemaPath : List PathStep
  /-- The violations that led to this one. -/
  context : List Violation
  /-- What lies behind it. -/
  cause : Option (Cause Violation)
deriving Inhabited

/-- Why a value could not be converted. -/
abbrev CoercionError := CoercionFault Violation

namespace Violation

/-- A violation at the root. -/
def ofMessage (message : String) : Violation :=
  ⟨message, none, [], [], [], none⟩

/-- A violation with a step put before its path. -/
def atStep (v : Violation) (step : PathStep) : Violation :=
  { v with path := step :: v.path }

/-- A violation with a step put before the path to its constraint. -/
def underStep (v : Violation) (step : PathStep) : Violation :=
  { v with schemaPath := step :: v.schemaPath }

/-- A violation of a keyword, unless it is known which keyword it violates. -/
def tagged (k : Keyword) (v : Violation) : Violation :=
  { v.underStep (.key k.name) with keyword := v.keyword.or (some k) }

/-- The pointer to the value. -/
def pointer (v : Violation) : String :=
  Pointer.text v.path

/-- The text of a violation. -/
def text (v : Violation) : String :=
  if v.path = [] then v.message else s!"{v.message} (at {v.pointer})"

mutual

/-- Whether two violations say the same; what lies behind them does not count. -/
def same : Violation → Violation → Bool
  | ⟨m, k, p, s, c, _⟩, ⟨m', k', p', s', c', _⟩ =>
    m == m' && k == k' && p == p' && s == s' && sameAll c c'

/-- Whether two lists of violations say the same. -/
def sameAll : List Violation → List Violation → Bool
  | [], [] => true
  | v :: vs, w :: ws => same v w && sameAll vs ws
  | _, _ => false

end

instance : BEq Violation := ⟨same⟩

/-! ## Absolute paths -/

/-- A violation together with the paths that lead to what it is relative to. -/
structure Located where
  /-- The violation. -/
  violation : Violation
  /-- The path to the value that its path starts from. -/
  base : List PathStep
  /-- The path to the schema that its schema path starts from. -/
  schemaBase : List PathStep

/-- A violation at the root. -/
def atRoot (v : Violation) : Located :=
  ⟨v, [], []⟩

namespace Located

/-- The path from the root of the instance. -/
def absolutePath (l : Located) : List PathStep :=
  l.base ++ l.violation.path

/-- The path from the root of the schema. -/
def absoluteSchemaPath (l : Located) : List PathStep :=
  l.schemaBase ++ l.violation.schemaPath

/-- The violations of the context. -/
def context (l : Located) : List Located :=
  l.violation.context.map fun v => ⟨v, l.absolutePath, l.absoluteSchemaPath⟩

end Located

end Violation

/-- The violations of one validation, at least one. -/
structure Violations where
  /-- The violations in order. -/
  toList : List Violation
  /-- There is a violation. -/
  ne_nil : toList ≠ []

namespace Violations

/-- A list of violations, if it is not empty. -/
def ofList? (vs : List Violation) : Option Violations :=
  match vs with
  | [] => none
  | v :: vs => some ⟨v :: vs, List.cons_ne_nil v vs⟩

/-- A single violation. -/
def one (v : Violation) : Violations :=
  ⟨[v], List.cons_ne_nil v []⟩

/-- The text of violations, with an empty line between any two. -/
def text (vs : Violations) : String :=
  s!"found {vs.toList.length} validation error(s)\n" ++
    Text.joinStrings "\n\n" (vs.toList.map Violation.text)

end Violations

end ApiContract
