/-
# Validation

A value is validated against a schema keyword by keyword.  Every keyword sees the value as
it was given; what they change is laid over each other afterwards.  A schema with a
reference is nothing but that reference, and a nullable schema takes null whatever else it
says.
-/
import ApiContract.Schema.Applicator
import ApiContract.Failure

namespace ApiContract

/-! ## Sizes -/

namespace Value

mutual

/-- The number of values in a value, itself included. -/
def size : Value → Nat
  | array items => 1 + sizeItems items
  | object fields => 1 + sizeFields fields
  | _ => 1

/-- The number of values in a list of items. -/
def sizeItems : List Value → Nat
  | [] => 0
  | v :: vs => size v + sizeItems vs

/-- The number of values in a list of fields. -/
def sizeFields : List (String × Value) → Nat
  | [] => 0
  | (_, v) :: fs => size v + sizeFields fs

end

end Value

/-- The number of values in all documents of a store. -/
def Store.size (store : Store) : Nat :=
  (store.documents.map fun (_, document) => document.size).foldr (· + ·) 0

/-! ## The visit -/

namespace Validator

/-- Lays one changed value over another. -/
def layer (v : Value) (earlier later : Option Value) : Option Value :=
  match earlier, later with
  | some e, some l => some (Value.overlay v e l)
  | none, l => l
  | e, none => e

/-- Whether a schema takes null whatever else it says. -/
def isNullable (schema : Fields) : Bool :=
  ((schema.lookup "nullable").bind Value.bool?) = some true

/-- The keywords of a schema with their values, in the order of evaluation. -/
def keywordsOf (schema : Fields) : List (Keyword × Value) :=
  Keyword.order.filterMap fun k => (schema.lookup k.name).map (k, ·)

/-- What a keyword makes of a value. -/
def visitKeyword (val : Validator) (follow : Follow) (visit : Visit) (v : Value)
    (schema : Fields) (k : Keyword) (value : Value) : Walk SchemaError Outcome := do
  let c ← Keyword.contribution val follow visit schema k v value
  return ⟨c.change, c.applied.getD value, c.violations.map (Violation.tagged k)⟩

/-- What the keywords of a schema make of a value. -/
def visitKeywords (val : Validator) (follow : Follow) (visit : Visit) (v : Value)
    (schema : Fields) : Walk SchemaError Outcome := do
  let outcomes ← (keywordsOf schema).mapM fun (k, value) =>
    return (k, ← visitKeyword val follow visit v schema k value)
  return {
    change := (outcomes.map fun (_, o) => o.change).foldl (layer v) none
    applied := .object (outcomes.map fun (k, o) => (k.name, o.applied))
    violations := outcomes.flatMap fun (_, o) => o.violations }

/-- What a schema makes of a value, apart from the scope it opens. -/
def visitFields (val : Validator) (follow : Follow) (visit : Visit) (v : Value)
    (schema : Fields) : Walk SchemaError Outcome :=
  match schema.lookup Keyword.ref.name with
  | some value => visitKeyword val follow visit v schema .ref value
  | none =>
    if v.isNull && isNullable schema then return ⟨none, .object [], []⟩
    else visitKeywords val follow visit v schema

/-- What a schema makes of a value, given how references are followed and how the schemas
in it are visited. -/
def visitNode (val : Validator) (follow : Follow) (visit : Visit) : Visit := fun v schema =>
  match schema with
  | .object fields =>
    match (fields.lookup "id").bind Value.string? with
    | some uri => Walk.inScope uri (val.visitFields follow visit v fields)
    | none => val.visitFields follow visit v fields
  | _ => Walk.broken (.malformed s!"schema must be an object, found {schema.kind}")

/-- What a schema makes of a value; the first number bounds how deep schemas are visited. -/
def visit (val : Validator) : Nat → Visit
  | 0, _, _ => tooDeep
  | n + 1, v, schema =>
    val.visitNode (Applicator.follow val.store (val.visit n)) (val.visit n) v schema

/-- A bound on the depth of a visit.  No reference is followed twice for one value, so the
depth is bounded by the numbers of values, of documents and of references. -/
def visitDepth (val : Validator) (v schema : Value) : Nat :=
  Nat.pow (val.store.size + v.size + schema.size + 2) 8

/-- What a schema makes of a value. -/
def outcome (val : Validator) (v schema : Value) : Walk SchemaError Outcome :=
  val.visit (val.visitDepth v schema) v schema

/-- The violations of a schema by a value. -/
def violations (val : Validator) (v schema : Value) : Walk SchemaError (List Violation) := do
  return (← val.outcome v schema).violations

end Validator

/-! ## Results -/

/-- A value that satisfies its schema. -/
structure Validated where
  /-- The value, changed or as it was. -/
  value : Value
  /-- Whether it was changed. -/
  isChanged : Bool
  /-- The part of the schema that was applied. -/
  applied : Value

namespace Validator

/-- The value of a schema it satisfies; its violations make it invalid. -/
def validated (val : Validator) (v schema : Value) : Walk Failure Validated := do
  let o ← Walk.mapError Failure.ofSchema (val.outcome v schema)
  match Violations.ofList? o.violations with
  | some violations => throw (.invalid violations)
  | none => return ⟨o.change.getD v, o.change.isSome, o.applied⟩

/-- A walk from the root document with a memory of earlier ones, and the memory after it. -/
def runOver {ε α : Type} (val : Validator) (memory : Memory) (walk : Walk ε α) :
    Except ε α × Memory :=
  let (result, session) := walk.run (Session.start val.store memory)
  (result, session.memory)

/-- A walk from the root document with some patterns at hand, and the patterns after it. -/
def runWith {ε α : Type} (val : Validator) (patterns : Patterns) (walk : Walk ε α) :
    Except ε α × Patterns :=
  let (result, memory) := val.runOver { Memory.empty with patterns := patterns } walk
  (result, memory.patterns)

/-- The result of a walk from the root document. -/
def run {ε α : Type} (val : Validator) (walk : Walk ε α) : Except ε α :=
  (val.runWith .empty walk).1

/-- Validates a value against a schema. -/
def validate (val : Validator) (v schema : Value) : Except Failure Validated :=
  val.run (val.validated v schema)

/-- All violations of a schema by a value, in the order of evaluation. -/
def violationsOf (val : Validator) (v schema : Value) : Except SchemaError (List Violation) :=
  val.run (val.violations v schema)

/-- Whether a value satisfies a schema. -/
def isValid (val : Validator) (v schema : Value) : Except SchemaError Bool :=
  (val.violationsOf v schema).map List.isEmpty

end Validator

/-! ## Dialects -/

namespace Dialect

/-- The validator of a dialect that leaves missing properties missing. -/
def validator (d : Dialect) (store : Store) : Validator :=
  ⟨store, d.formats, false⟩

/-- The validator of a dialect for schemas that refer to no document. -/
def alone (d : Dialect) : Validator :=
  d.validator (.ofRoot "" .null)

end Dialect

end ApiContract
