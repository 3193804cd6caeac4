/-
# Bodies of requests

A body is taken if its media type is declared.  A body of JSON is read and validated; any
other passes as it is.
-/
import ApiContract.Exchange.Message
import ApiContract.Schema.Validate

namespace ApiContract

/-- The body that an operation declares. -/
structure RequestBody where
  /-- The media types. -/
  content : Content
  /-- Whether there must be a body. -/
  isRequired : Bool

namespace RequestBody

/-- The body of a declaration. -/
def ofDeclaration (declaration : Value) : Except SchemaError RequestBody := do
  let content ← Content.ofDeclaration declaration
  return ⟨content, ((declaration.get? "required").bind Value.bool?).getD false⟩

/-- Whether a content type is declared. -/
def accepts (declared : RequestBody) (contentType : String) : Bool :=
  Fields.has (MediaType.ofContentType contentType) declared.content

/-- The value of a body of JSON. -/
def checkJson (declared : RequestBody) (val : Validator) (body : List UInt8) :
    Except Failure (Option Value) :=
  if body.isEmpty then
    if declared.isRequired then .error (.ofViolation (.ofMessage "json body is required"))
    else .ok none
  else
    match Json.ofBytes body with
    | .error fault =>
      let violation := Violation.ofMessage s!"invalid json body: {fault.mark}"
      .error (.ofViolation { violation with cause := some (.json fault) })
    | .ok v =>
      match (declared.content.lookup MediaType.json).join with
      | some schema => (val.validate v schema).map fun result => some result.value
      | none => .ok (some v)

/-- Checks the body of a request; the result is its value, if it is JSON. -/
def check (declared : RequestBody) (val : Validator) (request : Request) :
    Except Failure (Option Value) :=
  match request.contentType with
  | none =>
    if request.body.isEmpty && !declared.isRequired then .ok none
    else .error (.notAcceptable none)
  | some contentType =>
    if !declared.accepts contentType then .error (.notAcceptable (some contentType))
    else if MediaType.ofContentType contentType = MediaType.json then
      declared.checkJson val request.body
    else .ok none

end RequestBody

end ApiContract
