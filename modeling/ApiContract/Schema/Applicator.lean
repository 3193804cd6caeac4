/-
# Keywords that apply schemas

Every keyword makes a contribution: violations, a changed value and the part of the
schema that was applied.  The keywords that apply schemas to the value or to its parts are
given the visit that does so.
-/
import ApiContract.Schema.Constraint
import ApiContract.Schema.Default
import ApiContract.Value.Merge

namespace ApiContract

/-- What a schema makes of a value. -/
structure Outcome where
  /-- The changed value; none if nothing was changed. -/
  change : Option Value
  /-- The part of the schema that was applied. -/
  applied : Value
  /-- The violations in order. -/
  violations : List Violation

/-- What a keyword makes of a value. -/
structure Contribution where
  /-- The changed value; none if nothing was changed. -/
  change : Option Value
  /-- The part of the keyword that was applied; none if all of it was. -/
  applied : Option Value
  /-- The violations in order. -/
  violations : List Violation

/-- How a value is validated against a schema. -/
abbrev Visit := Value → Value → Walk SchemaError Outcome

/-- How a value is validated against what a reference leads to. -/
abbrev Follow := Value → String → Walk SchemaError Outcome

/-- An outcome whose violations are seen from further up: paths lead to the value and to
the schema first. -/
def Outcome.under (o : Outcome) (path schemaPath : List PathStep) : Outcome :=
  { o with
    violations := o.violations.map fun v =>
      { v with path := path ++ v.path, schemaPath := schemaPath ++ v.schemaPath } }

namespace Contribution

/-- A contribution of violations alone. -/
def ofViolations (violations : List Violation) : Contribution :=
  ⟨none, none, violations⟩

/-- No contribution. -/
def nothing : Contribution :=
  ofViolations []

/-- A contribution of one violation. -/
def ofMessage (message : String) : Contribution :=
  ofViolations [.ofMessage message]

/-- The contribution of an outcome. -/
def ofOutcome (o : Outcome) : Contribution :=
  ⟨o.change, some o.applied, o.violations⟩

end Contribution

/-! ## Parts of a value -/

/-- A part of a value with what was made of it. -/
structure Part (κ : Type) where
  /-- The place of the part. -/
  place : κ
  /-- What was made of it. -/
  outcome : Outcome

namespace Part

/-- The violations of some parts. -/
def violations {κ : Type} (parts : List (Part κ)) : List Violation :=
  parts.flatMap fun p => p.outcome.violations

/-- An object with its changed parts in their places, if there are any. -/
def changeFields (fields : Fields) (parts : List (Part String)) : Option Value :=
  if parts.all fun p => p.outcome.change.isNone then none
  else
    some (.object (parts.foldl
      (fun fields p => p.outcome.change.elim fields fun v => Fields.insert p.place v fields)
      fields))

/-- An array with its changed parts in their places, if there are any. -/
def changeItems (items : List Value) (parts : List (Part Nat)) : Option Value :=
  if parts.all fun p => p.outcome.change.isNone then none
  else
    some (.array (parts.foldl
      (fun items p => p.outcome.change.elim items fun v => items.set p.place v) items))

end Part

namespace Applicator

open Constraint (malformed)

/-- Validates a part of a value. -/
def child {κ : Type} (visit : Visit) (place : κ) (v schema : Value)
    (path schemaPath : List PathStep) : Walk SchemaError (Part κ) := do
  return ⟨place, (← Walk.onChild (visit v schema)).under path schemaPath⟩

/-- A keyword that looks at the value alone. -/
def constraint (messages : Constraint.Messages) : Walk SchemaError Contribution := do
  return .ofViolations ((← Walk.ofExcept messages).map .ofMessage)

/-! ## References -/

/-- Validates against what a reference leads to, in the scope it leads to.  A reference
that is already being followed for the same value never comes to an end. -/
def follow (store : Store) (visit : Visit) : Follow := fun v reference => do
  let (url, target) ← Walk.resolve store reference
  if ← Walk.isFollowing url then Walk.broken (.referenceCycle url)
  else Walk.inScope url (Walk.following url (visit v target))

/-- The keyword `$ref`. -/
def ref (follow : Follow) (v value : Value) : Walk SchemaError Contribution :=
  match value with
  | .string reference => Contribution.ofOutcome <$> follow v reference
  | _ => Walk.broken (malformed .ref "a string")

/-! ## Objects -/

/-- A declared property.  One that is missing takes its default; a default with parts is
validated, any other is trusted. -/
def property (val : Validator) (visit : Visit) (fields : Fields) (name : String)
    (schema : Value) : Walk SchemaError (Part String) := do
  let step := [PathStep.key name]
  match fields.lookup name with
  | some v => child visit name v schema step step
  | none =>
    match ← val.declaredDefault schema with
    | none => return ⟨name, none, schema, []⟩
    | some default =>
      if default.isContainer then
        let part ← child visit name default schema step step
        let filled := part.outcome.change.getD default
        return { part with outcome := { part.outcome with change := some filled } }
      else return ⟨name, some (← val.typedDefault default schema), schema, []⟩

/-- The keyword `properties`. -/
def properties (val : Validator) (visit : Visit) (v value : Value) :
    Walk SchemaError Contribution :=
  match value with
  | .object declared =>
    match v with
    | .object fields => do
      let parts ← declared.mapM fun (name, schema) => property val visit fields name schema
      return {
        change := Part.changeFields fields parts
        applied := some (.object (parts.map fun p => (p.place, p.outcome.applied)))
        violations := Part.violations parts }
    | _ => return .nothing
  | _ => Walk.broken (malformed .properties "an object")

/-- The fields whose names match a pattern, each validated. -/
def matchingFields (visit : Visit) (fields : Fields) (source : String) (schema : Value) :
    Walk SchemaError (List (Part String)) := do
  let regex ← Walk.pattern source
  (fields.filter fun (name, _) => regex.isMatch name).mapM fun (name, v) =>
    child visit name v schema [.key name] [.key source]

/-- The keyword `patternProperties`. -/
def patternProperties (visit : Visit) (v value : Value) : Walk SchemaError Contribution :=
  match value with
  | .object patterns =>
    match v with
    | .object fields => do
      let parts ← patterns.mapM fun (source, schema) =>
        matchingFields visit fields source schema
      return ⟨Part.changeFields fields parts.flatten, none, Part.violations parts.flatten⟩
    | _ => return .nothing
  | _ => Walk.broken (malformed .patternProperties "an object")

/-- The sources of the patterns beside `additionalProperties`. -/
def patternSources (schema : Fields) : List String :=
  ((schema.lookup Keyword.patternProperties.name).bind Value.object?).elim [] Fields.keys

/-- The names that are declared beside `additionalProperties`. -/
def declaredNames (schema : Fields) : List String :=
  ((schema.lookup Keyword.properties.name).bind Value.object?).elim [] Fields.keys

/-- The fields that are neither declared nor matched by one of the patterns. -/
def extraFields (fields schema : Fields) : Walk SchemaError Fields := do
  let undeclared := fields.filter fun (name, _) => !(declaredNames schema).contains name
  match patternSources schema with
  | [] => return undeclared
  | sources =>
    let regex ← Walk.pattern (Text.joinStrings "|" sources)
    return undeclared.filter fun (name, _) => !regex.isMatch name

/-- Names in single quotes, separated by commas. -/
def quotedNames (names : List String) : String :=
  Text.joinStrings ", " (names.map fun name => s!"'{name}'")

/-- Names in alphabetical order. -/
def sorted (names : List String) : List String :=
  names.mergeSort fun s t => decide (s ≤ t)

/-- The message about fields that are not allowed. -/
def extraMessage (extras sources : List String) : String :=
  if sources.isEmpty then
    s!"Additional properties are not allowed ({quotedNames extras} were unexpected)"
  else
    quotedNames (sorted extras) ++ " do not match any of the regexes: " ++
      quotedNames (sorted sources)

/-- The keyword `additionalProperties`. -/
def additionalProperties (visit : Visit) (schema : Fields) (v value : Value) :
    Walk SchemaError Contribution :=
  if value.object?.isNone && value.bool?.isNone then
    Walk.broken (malformed .additionalProperties "a schema or a boolean")
  else
    match v with
    | .object fields => do
      let extras ← extraFields fields schema
      match value with
      | .object _ =>
        let parts ← extras.mapM fun (name, v) => child visit name v value [.key name] []
        return ⟨Part.changeFields fields parts, none, Part.violations parts⟩
      | .bool false =>
        if extras.isEmpty then return .nothing
        else return .ofMessage (extraMessage (Fields.keys extras) (patternSources schema))
      | _ => return .nothing
    | _ => return .nothing

/-! ## Arrays -/

/-- Items validated one by one, each against its schema; `start` is the index of the
first. -/
def itemParts (visit : Visit) (start : Nat) (schemaPath : Nat → List PathStep) :
    List (Value × Value) → Walk SchemaError (List (Part Nat))
  | [] => return []
  | (v, schema) :: rest => do
    let part ← child visit start v schema [.index start] (schemaPath start)
    return part :: (← itemParts visit (start + 1) schemaPath rest)

/-- The keyword `items`: one schema for all items, or one for each of the first items. -/
def items (visit : Visit) (v value : Value) : Walk SchemaError Contribution :=
  if value.object?.isNone && value.array?.isNone then
    Walk.broken (malformed .items "a schema or an array of schemas")
  else
    match v with
    | .array vs =>
      match value with
      | .array schemas => do
        let parts ← itemParts visit 0 (fun i => [.index i]) (vs.zip schemas)
        let applied := parts.map (·.outcome.applied) ++ schemas.drop vs.length
        return ⟨Part.changeItems vs parts, some (.array applied), Part.violations parts⟩
      | _ => do
        let parts ← itemParts visit 0 (fun _ => []) (vs.map (·, value))
        let applied := parts.getLast?.map (·.outcome.applied)
        return ⟨Part.changeItems vs parts, applied, Part.violations parts⟩
    | _ => return .nothing

/-- The keyword `additionalItems`: it concerns the items after those that have schemas of
their own. -/
def additionalItems (visit : Visit) (schema : Fields) (v value : Value) :
    Walk SchemaError Contribution :=
  if value.object?.isNone && value.bool?.isNone then
    Walk.broken (malformed .additionalItems "a schema or a boolean")
  else
    match v.array?, (schema.lookup Keyword.items.name).bind Value.array? with
    | some vs, some schemas =>
      let extras := vs.drop schemas.length
      match value with
      | .object _ => do
        let parts ← itemParts visit schemas.length (fun _ => []) (extras.map (·, value))
        return ⟨Part.changeItems vs parts, none, Part.violations parts⟩
      | .bool false =>
        if extras.isEmpty then return .nothing
        else
          let unexpected := Text.joinStrings ", " (extras.map Value.text)
          return .ofMessage s!"Additional items are not allowed ({unexpected} were unexpected)"
      | _ => return .nothing
    | _, _ => return .nothing

/-! ## Combinations -/

/-- The outcomes of the branches of a combination, in order, with their indices. -/
def branches (visit : Visit) (k : Keyword) (v value : Value) :
    Walk SchemaError (List (Nat × Outcome)) :=
  match value with
  | .array schemas =>
    schemas.zipIdx.mapM fun (schema, i) =>
      return (i, (← visit v schema).under [] [.index i])
  | _ => Walk.broken (malformed k "an array of schemas")

/-- The branches that raise no violation. -/
def passing (outcomes : List (Nat × Outcome)) : List (Nat × Outcome) :=
  outcomes.filter fun (_, o) => o.violations.isEmpty

/-- The violations of all branches. -/
def allViolations (outcomes : List (Nat × Outcome)) : List Violation :=
  outcomes.flatMap fun (_, o) => o.violations

/-- The values of several branches merged, if one of them was changed. -/
def combine (v : Value) (outcomes : List Outcome) (violations : List Violation) :
    Contribution :=
  { change :=
      if outcomes.all (·.change.isNone) then none
      else Value.mergeAll (outcomes.map fun o => o.change.getD v)
    applied := some (.array (outcomes.map (·.applied)))
    violations := violations }

/-- The violation of a value that no branch takes. -/
def noBranch (v : Value) (outcomes : List (Nat × Outcome)) : Contribution :=
  let violation := Violation.ofMessage s!"{v.text} is not valid under any of the given schemas"
  .ofViolations [{ violation with context := allViolations outcomes }]

/-- The keyword `allOf`. -/
def allOf (visit : Visit) (v value : Value) : Walk SchemaError Contribution := do
  let outcomes ← branches visit .allOf v value
  if outcomes.isEmpty then return .nothing
  else return combine v (outcomes.map Prod.snd) (allViolations outcomes)

/-- The keyword `anyOf`. -/
def anyOf (visit : Visit) (v value : Value) : Walk SchemaError Contribution := do
  let outcomes ← branches visit .anyOf v value
  match passing outcomes with
  | [] => return noBranch v outcomes
  | taking => return combine v (taking.map Prod.snd) []

/-- The keyword `oneOf`. -/
def oneOf (visit : Visit) (v value : Value) : Walk SchemaError Contribution := do
  let outcomes ← branches visit .oneOf v value
  match passing outcomes with
  | [] => return noBranch v outcomes
  | [(_, o)] => return .ofOutcome o
  | taking =>
    let schemas := taking.filterMap fun (i, _) => (value.array?.getD [])[i]?
    let listed := Text.joinStrings ", " (schemas.map Value.text)
    return .ofMessage s!"{v.text} is valid under each of {listed}"

/-- The keyword `not`. -/
def not (visit : Visit) (v value : Value) : Walk SchemaError Contribution := do
  if (← visit v value).violations.isEmpty then
    return .ofMessage s!"{value.text} is not allowed for {v.text}"
  else return .nothing

/-! ## Texts -/

/-- The keyword `pattern`. -/
def pattern (v value : Value) : Walk SchemaError Contribution :=
  match value with
  | .string source =>
    match v with
    | .string s => do
      if (← Walk.pattern source).isMatch s then return .nothing
      else return .ofMessage s!"{v.text} does not match {Text.inQuotes source}"
    | _ => return .nothing
  | _ => Walk.broken (malformed .pattern "a string")

/-- The keyword `format`; it may change a string to a typed leaf. -/
def format (val : Validator) (v value : Value) : Walk SchemaError Contribution :=
  match value with
  | .string name =>
    match val.formats.check name v with
    | .ok change => return ⟨change, none, []⟩
    | .error fault =>
      let violation := Violation.ofMessage s!"{v.text} is not a {name}"
      return .ofViolations [{ violation with cause := some (.format fault) }]
  | _ => Walk.broken (malformed .format "a string")

end Applicator

/-! ## All keywords -/

namespace Keyword

/-- The contribution of a keyword with a value; `schema` holds the keywords beside it. -/
def contribution (val : Validator) (follow : Follow) (visit : Visit) (schema : Fields)
    (k : Keyword) (v value : Value) : Walk SchemaError Contribution :=
  match k with
  | ref => Applicator.ref follow v value
  | type => Applicator.constraint (Constraint.type v value)
  | enum => Applicator.constraint (Constraint.enum v value)
  | minLength => Applicator.constraint (Constraint.minLength v value)
  | maxLength => Applicator.constraint (Constraint.maxLength v value)
  | pattern => Applicator.pattern v value
  | minimum => Applicator.constraint (Constraint.minimum schema v value)
  | maximum => Applicator.constraint (Constraint.maximum schema v value)
  | multipleOf => Applicator.constraint (Constraint.multipleOf v value)
  | properties => Applicator.properties val visit v value
  | patternProperties => Applicator.patternProperties visit v value
  | additionalProperties => Applicator.additionalProperties visit schema v value
  | required => Applicator.constraint (Constraint.required v value)
  | minProperties => Applicator.constraint (Constraint.minProperties v value)
  | maxProperties => Applicator.constraint (Constraint.maxProperties v value)
  | dependencies => Walk.broken (.unsupported "the dependencies keyword")
  | items => Applicator.items visit v value
  | additionalItems => Applicator.additionalItems visit schema v value
  | minItems => Applicator.constraint (Constraint.minItems v value)
  | maxItems => Applicator.constraint (Constraint.maxItems v value)
  | uniqueItems => Applicator.constraint (Constraint.uniqueItems v value)
  | allOf => Applicator.allOf visit v value
  | anyOf => Applicator.anyOf visit v value
  | oneOf => Applicator.oneOf visit v value
  | not => Applicator.not visit v value
  | format => Applicator.format val v value

end Keyword

end ApiContract
