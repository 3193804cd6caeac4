/-
# Validators and defaults

A validator holds the documents, the formats and the choice whether missing properties are
filled.  The default of a schema is found through references, and through the branches of
`allOf` if exactly one of them has one.
-/
import ApiContract.Schema.Format
import ApiContract.Schema.Keyword
import ApiContract.Schema.Walk

namespace ApiContract

/-- What validation depends on besides the schema and the instance. -/
structure Validator where
  /-- The documents that references name. -/
  store : Store
  /-- The formats that are checked. -/
  formats : Formats
  /-- Whether missing properties take their defaults. -/
  fills : Bool

namespace Validator

/-- How deep a default, a format or a type is looked for through references. -/
def lookupDepth : Nat := 64

/-- The reference of a schema. -/
def reference? (schema : Value) : Option String :=
  (schema.get? Keyword.ref.name).bind Value.string?

/-- The end of a search that has gone too deep. -/
def tooDeep {ε α : Type} [SchemaFault ε] : Walk ε α := do
  Walk.broken (.referenceCycle (← Walk.scope))

/-- The default of a schema; the first number says how much deeper to look. -/
def findDefault (store : Store) : Nat → Value → Walk SchemaError (Option Value)
  | 0, _ => tooDeep
  | n + 1, schema =>
    match reference? schema with
    | some reference => do
      let (url, target) ← Walk.resolve store reference
      Walk.inScope url (findDefault store n target)
    | none =>
      match schema.get? "default" with
      | some default => return some default
      | none =>
        match (schema.get? Keyword.allOf.name).bind Value.array? with
        | some branches => do
          let found ← branches.mapM (findDefault store n)
          match found.filterMap id with
          | [default] => return some default
          | _ => return none
        | none => return none

/-- The format that a schema declares; the first number says how much deeper to look. -/
def declaredFormat (store : Store) : Nat → Value → Walk SchemaError (Option String)
  | 0, _ => tooDeep
  | n + 1, schema =>
    match reference? schema with
    | some reference => do
      let (url, target) ← Walk.resolve store reference
      Walk.inScope url (declaredFormat store n target)
    | none => return (schema.get? Keyword.format.name).bind Value.string?

/-- The default of a schema as it stands there, if defaults are filled. -/
def declaredDefault (val : Validator) (schema : Value) : Walk SchemaError (Option Value) :=
  if val.fills then findDefault val.store (lookupDepth + 1) schema else return none

/-- A default in the typed shape that its format gives it.  A default that its format does
not take stays as it is. -/
def typedDefault (val : Validator) (default schema : Value) : Walk SchemaError Value := do
  match ← declaredFormat val.store (lookupDepth + 1) schema with
  | none => return default
  | some format =>
    match val.formats.check format default with
    | .ok (some typed) => return typed
    | _ => return default

/-- The default that stands for a missing value of a schema. -/
def defaultOf (val : Validator) (schema : Value) : Walk SchemaError (Option Value) := do
  match ← val.declaredDefault schema with
  | none => return none
  | some default =>
    if default.isContainer then return some default
    else return some (← val.typedDefault default schema)

end Validator

end ApiContract
