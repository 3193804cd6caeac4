/-
# From texts to types

The parts of a parameter arrive as texts.  Coercion turns those for which the schema
declares an integer, a number or a truth value into one, and leaves what does not have the
shape of the schema for validation to find.
-/
import ApiContract.Parameter.Strategy
import ApiContract.Schema.Validate

namespace ApiContract

/-- The members of a union: a schema without a type that lists alternatives. -/
def unionBranches? (schema : Value) : Option (List Value) :=
  if (schema.get? "type").isSome then none
  else ((schema.get? "oneOf").or (schema.get? "anyOf")).bind Value.array?

/-- The error of a schema whose type is not a single name. -/
def manyTypes (type : Value) : SchemaError :=
  .unsupported s!"parameter type {type.text} (expected a single type name)"

namespace Coercion

open Validator (reference? tooDeep lookupDepth)

/-! ## The type that decides -/

/-- Goes through types until one has parts. -/
def expectPrimitive (typeOf : Value → Walk SchemaError String) :
    List Value → Walk SchemaError Unit
  | [] => return ()
  | branch :: branches => do
    let type ← typeOf branch
    if isPrimitive type then expectPrimitive typeOf branches
    else Walk.broken (.unsupported s!"parameter union over non-primitive type {type}")

/-- The type that a schema declares; the first number says how much deeper to look. -/
def typeOf (store : Store) : Nat → Value → Walk SchemaError String
  | 0, _ => tooDeep
  | n + 1, schema =>
    match reference? schema with
    | some reference => do
      let (url, target) ← Walk.resolve store reference
      Walk.inScope url (typeOf store n target)
    | none =>
      match schema.get? "type" with
      | some (.string name) => return name
      | some type => Walk.broken (manyTypes type)
      | none =>
        match unionBranches? schema with
        | some branches => do
          expectPrimitive (typeOf store n) branches
          return "string"
        | none => return "object"

/-! ## Leaves -/

/-- The truth value that a text denotes, in any case. -/
def boolean (text : String) : Except CoercionError Value :=
  match Text.lowerAscii text with
  | "true" => .ok (.bool true)
  | "false" => .ok (.bool false)
  | _ => .error (.boolean text)

/-- The integer that a text denotes.  It is read with 128 bits and must fit in those of
its format. -/
def integer (format : Option String) (text : String) : Except CoercionError Value :=
  match Number.readInteger 10 (-(Int.pow 2 127)) (Int.pow 2 127 - 1) text.toList with
  | .error fault => .error (.integer fault)
  | .ok n =>
    let (least, greatest, name) : Int × Int × String :=
      if format = some "int32" then (-2147483648, 2147483647, "int32")
      else (Number.least64, Number.greatest64, "int64")
    if n < least ∨ greatest < n then .error (.outOfRange n name)
    else .ok (.integer (Int64.ofInt n))

/-- The number that a text denotes. -/
def number (text : String) : Except CoercionError Value :=
  match Number.readDouble text.toList with
  | .ok x => .ok (.number x)
  | .error fault => .error (.number fault)

/-! ## Values with parts -/

/-- How the parts of a value are converted: the schema comes first. -/
abbrev Conversion := Value → Value → Walk CoercionError Value

/-- Fields for which schemas are declared. -/
def declaredFields (convert : Conversion) :
    List (String × Value) → Fields → Walk CoercionError Fields
  | [], fields => return fields
  | (name, schema) :: declared, fields => do
    match fields.lookup name with
    | some v => declaredFields convert declared (Fields.insert name (← convert schema v) fields)
    | none => declaredFields convert declared fields

/-- Fields of an object: those that are declared, then the others if there is a schema for
them. -/
def fields (convert : Conversion) (schema : Value) (fields : Fields) :
    Walk CoercionError Value := do
  let declared := ((schema.get? "properties").bind Value.object?).getD []
  let fields ← declaredFields convert declared fields
  match (schema.get? "additionalProperties").filter (·.object?.isSome) with
  | none => return .object fields
  | some additional =>
    return .object (← fields.mapM fun (name, v) =>
      if Fields.has name declared then return (name, v)
      else return (name, ← convert additional v))

/-- Items of an array. -/
def items (convert : Conversion) (schema : Value) (items : List Value) :
    Walk CoercionError Value :=
  match (schema.get? "items").filter (·.object?.isSome) with
  | some item => do return .array (← items.mapM (convert item))
  | none => Walk.broken (.unsupported "array parameters need a single `items` schema")

/-- A value of a type that is given by its name. -/
def ofType (convert : Conversion) (schema : Value) (type : String) (v : Value) :
    Walk CoercionError Value :=
  match type, v with
  | "string", v => return v
  | "boolean", .string text => liftExcept (boolean text)
  | "integer", .string text =>
    liftExcept (integer ((schema.get? "format").bind Value.string?) text)
  | "number", .string text => liftExcept (number text)
  | "object", .object fs => fields convert schema fs
  | "array", .array vs => items convert schema vs
  | "boolean", v | "integer", v | "number", v | "object", v | "array", v => return v
  | _, _ => Walk.broken (.unsupported s!"coercing parameters of type {type}")
where
  /-- A conversion that needs no walk. -/
  liftExcept : Except CoercionError Value → Walk CoercionError Value
    | .ok v => return v
    | .error e => throw e

/-- A value of a union: the first member that converts it and takes the result decides.
Otherwise every member adds its violations to those before. -/
def ofUnion (val : Validator) (convert : Conversion) (v : Value) :
    List (Value × Nat) → List Violation → Walk CoercionError Value
  | [], violations => throw (.noCandidate v.text violations)
  | (branch, i) :: branches, violations => do
    match ← Walk.outcome (convert branch v) with
    | .ok candidate =>
      let rejected ← Walk.apart val.store
        (Walk.mapError .schema (val.violations candidate branch))
      if rejected.isEmpty then return candidate
      else ofUnion val convert v branches (violations ++ rejected)
    | .error (.schema error) => Walk.broken error
    | .error error =>
      let violation := { Violation.ofMessage error.message with
        schemaPath := [.index i], cause := some (.coercion error) }
      ofUnion val convert v branches (violations ++ [violation])

/-- A value converted to the types of a schema; the number says how much deeper to look. -/
def convert (val : Validator) : Nat → Conversion
  | 0, _, _ => tooDeep
  | n + 1, schema, v =>
    match reference? schema with
    | some reference => do
      let (url, target) ← Walk.resolve val.store reference
      Walk.inScope url (convert val n target v)
    | none =>
      match unionBranches? schema with
      | some branches => ofUnion val (convert val n) v branches.zipIdx []
      | none =>
        match schema.get? "type" with
        | none => ofType (convert val n) schema "object" v
        | some (.string type) => ofType (convert val n) schema type v
        | some type => Walk.broken (manyTypes type)

end Coercion

namespace Validator

/-- The type that decides how the text of a parameter is taken apart. -/
def declaredType (val : Validator) (schema : Value) : Walk SchemaError String :=
  Coercion.typeOf val.store (lookupDepth + 1) schema

/-- A value whose strings have become what a schema declares. -/
def coerced (val : Validator) (schema v : Value) : Walk CoercionError Value :=
  Coercion.convert val (lookupDepth + 1) schema v

end Validator

end ApiContract
