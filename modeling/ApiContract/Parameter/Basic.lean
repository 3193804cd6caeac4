/-
# Parameters

A parameter is found in a request, taken apart, coerced to the types of its schema and
validated.
-/
import ApiContract.Exchange.Message
import ApiContract.Parameter.Coercion
import ApiContract.Parameter.Query

namespace ApiContract

/-- A declared parameter. -/
structure Parameter where
  /-- The name. -/
  name : String
  /-- Where it travels. -/
  location : Location
  /-- How it is written. -/
  style : Style
  /-- Whether its parts are written apart. -/
  explode : Bool
  /-- Whether it must be there. -/
  isRequired : Bool
  /-- Whether it may have no value. -/
  allowsEmpty : Bool
  /-- The schema of its value. -/
  schema : Option Value

/-- The parts of a request that parameters are found in. -/
structure Source where
  /-- The parameters of the path. -/
  path : List (String × String)
  /-- The query. -/
  query : Query
  /-- The request. -/
  request : Request

namespace Parameter

/-! ## Declarations -/

/-- A truth value of a declaration. -/
def flag (key : String) (declaration : Value) : Option Bool :=
  (declaration.get? key).bind Value.bool?

/-- The parameter of a declaration. -/
def ofDeclaration (declaration : Value) : Except SchemaError Parameter := do
  let some name := (declaration.get? "name").bind Value.string?
    | throw (.malformed "parameter without a name")
  let some location := (declaration.get? "in").bind Value.string?
    | throw (.malformed s!"parameter {Text.inQuotes name} has no location")
  let location ← Location.ofName location
  let style ←
    match (declaration.get? "style").bind Value.string? with
    | some style => Style.ofName style
    | none => pure (.ofLocation location)
  return {
    name := name
    location := location
    style := style
    explode := (flag "explode" declaration).getD style.explodes
    isRequired := (flag "required" declaration).getD false
    allowsEmpty := (flag "allowEmptyValue" declaration).getD false
    schema := declaration.get? "schema" }

/-! ## Finding the value -/

/-- What is found of a parameter. -/
inductive Found where
  /-- Nothing. -/
  | absent
  /-- A text, or texts that have been taken apart already. -/
  | raw (v : Value)
  /-- Nothing, but there is a default. -/
  | default (v : Value)

/-- What may be there of a value. -/
def Found.ofRaw (v : Option Value) : Found :=
  v.elim absent raw

/-- The type that decides how the text is taken apart. -/
def declaredType (p : Parameter) (val : Validator) : Except Failure String :=
  match p.schema with
  | some schema => (val.run (val.declaredType schema)).mapError Failure.ofSchema
  | none => .ok "object"

/-- The default of a parameter that is missing in a query. -/
def queryDefault (p : Parameter) (val : Validator) : Except Failure (Option Value) :=
  match p.schema with
  | some schema => (val.run (val.defaultOf schema)).mapError Failure.ofSchema
  | none => .ok none

/-- The value of a parameter in a query. -/
def findInQuery (p : Parameter) (val : Validator) (type : String) (query : Query) :
    Except Failure Found :=
  if p.style = .form ∧ p.explode ∧ type = "object" then
    .error (.unsupported s!"exploded form object in query parameter \"{p.name}\"")
  else if p.style = .deepObject then .ok (.ofRaw (query.deepObject? p.name))
  else
    match query.lookup p.name with
    | some values =>
      if p.style = .form ∧ p.explode ∧ type = "array" then
        .ok (.raw (.array (values.map .string)))
      else .ok (.ofRaw (values.head?.map .string))
    | none => (p.queryDefault val).map fun d => d.elim .absent .default

/-- The value of a parameter in a request. -/
def find (p : Parameter) (val : Validator) (type : String) (source : Source) :
    Except Failure Found :=
  match p.location with
  | .path => .ok (.ofRaw ((source.path.lookup p.name).map .string))
  | .query => p.findInQuery val type source.query
  | .header => .ok (.ofRaw ((source.request.header? p.name).map .string))
  | .cookie => .error (.unsupported s!"cookie parameter \"{p.name}\"")

/-! ## Reading the value -/

/-- A violation by the value of a parameter. -/
def violation (p : Parameter) (message : String) : Violation :=
  (Violation.ofMessage message).atStep (.key p.name)

/-- The strings that a raw value is made of. -/
def decode (p : Parameter) (type : String) (raw : Value) : Except Failure Value :=
  match raw with
  | .string text => do
    let strategy ← (Strategy.choose p.style p.explode type).mapError Failure.ofSchema
    match strategy.apply text with
    | .ok v => return v
    | .error e =>
      let v := p.violation s!"invalid style of \"{p.name}\": {e.message}"
      throw (.ofViolation { v with cause := some (.style e) })
  | v => .ok v

/-- The failure of a value that does not convert. -/
def coercionFailure (p : Parameter) (error : CoercionError) : Failure :=
  let other :=
    let v := p.violation s!"invalid value of \"{p.name}\": {error.message}"
    Failure.ofViolation { v with cause := some (.coercion error) }
  match error with
  | .schema e => .ofSchema e
  | .noCandidate value (first :: rest) =>
    let shown := Text.inQuotes value
    let v := p.violation
      s!"invalid value of \"{p.name}\": {shown} does not match any candidate type"
    .ofViolation { v with context := first :: rest }
  | _ => other

/-- Violations seen from the request: paths start at the name of the parameter. -/
def rooted (p : Parameter) (violations : Violations) : Violations where
  toList := violations.toList.map fun v => v.atStep (.key p.name)
  ne_nil := by simp [violations.ne_nil]

/-- The value of a parameter from the strings it is made of. -/
def typed (p : Parameter) (val : Validator) (v : Value) : Except Failure Value :=
  match p.schema with
  | none => .ok v
  | some schema => do
    let v ← (val.run (val.coerced schema v)).mapError p.coercionFailure
    match val.validate v schema with
    | .ok result => return result.value
    | .error (.invalid violations) => throw (.invalid (p.rooted violations))
    | .error failure => throw failure

/-- Checks a parameter; there is no value if it may be missing and is. -/
def check (p : Parameter) (val : Validator) (source : Source) :
    Except Failure (Option Value) := do
  if p.allowsEmpty then
    throw (.unsupported s!"allowEmptyValue on parameter \"{p.name}\"")
  if !p.style.isSupported then
    throw (.unsupported s!"{p.style.name} style on parameter \"{p.name}\"")
  let type ← p.declaredType val
  match ← p.find val type source with
  | .default v => return some v
  | .raw raw => return some (← p.typed val (← p.decode type raw))
  | .absent =>
    if p.isRequired then
      throw (.ofViolation (.ofMessage
        s!"required parameter \"{p.name}\" is not found in {p.location.name}"))
    else return none

end Parameter

end ApiContract
