/-
# Broken schemas

What makes a schema unusable.  Such an error ends a validation and is never listed among
the violations of an instance.
-/
import ApiContract.Text.Quoted

namespace ApiContract

/-- An error in a schema. -/
inductive SchemaError where
  /-- A type that does not exist. -/
  | unknownType (name : String)
  /-- A reference to a document that is not in the store. -/
  | unresolvableReference (url : String)
  /-- A pointer that leads nowhere. -/
  | unresolvablePointer (pointer : String)
  /-- A feature that is not supported. -/
  | unsupported (feature : String)
  /-- A scope was left that had not been entered. -/
  | scopeUnderflow
  /-- References that lead back to themselves. -/
  | referenceCycle (url : String)
  /-- A pattern that is no regular expression. -/
  | invalidPattern (pattern : String)
  /-- A schema that is not built as it should be. -/
  | malformed (reason : String)
deriving DecidableEq, Repr

/-- The wording of an error. -/
def SchemaError.message : SchemaError → String
  | unknownType name => s!"unknown type {Text.inQuotes name} in schema"
  | unresolvableReference url => s!"unresolvable reference: {url}"
  | unresolvablePointer pointer => s!"unresolvable JSON pointer: {pointer}"
  | unsupported feature => s!"unsupported: {feature}"
  | scopeUnderflow => "resolution scope stack underflow"
  | referenceCycle url => s!"reference cycle through {url} never reaches a concrete schema"
  | invalidPattern pattern => s!"invalid pattern {Text.inQuotes pattern}"
  | malformed reason => s!"malformed schema: {reason}"

end ApiContract
