/-
# Operations

What an operation declares about the requests it takes and the responses it gives.
-/
import ApiContract.Exchange.Body
import ApiContract.Exchange.Responses
import ApiContract.Parameter.Set

namespace ApiContract

/-- An operation of an interface. -/
structure Operation where
  /-- The parameters. -/
  parameters : Parameters
  /-- The body of requests, if one is declared. -/
  body : Option RequestBody
  /-- The responses. -/
  responses : Responses

/-- A request that passes. -/
structure CheckedRequest where
  /-- The values of the parameters by name. -/
  parameters : List (String × Value)
  /-- The value of the body. -/
  body : Option Value

namespace Operation

/-- The query of a request. -/
def readQuery (request : Request) : Except Failure Query :=
  match Query.ofText request.query with
  | .ok query => .ok query
  | .error e =>
    let violation := Violation.ofMessage "cannot parse query string"
    .error (.ofViolation { violation with cause := some (.style e) })

/-- Checks a request: the parameters first, then the body. -/
def checkRequest (op : Operation) (val : Validator) (path : List (String × String))
    (request : Request) : Except Failure CheckedRequest := do
  let query ← readQuery request
  let parameters ← op.parameters.check val ⟨path, query, request⟩
  let body ←
    match op.body with
    | some declared => declared.check val request
    | none => pure none
  return ⟨parameters, body⟩

/-- Checks a response. -/
def checkResponse (op : Operation) (val : Validator) (response : Response) :
    Except Failure Unit :=
  op.responses.check val response

end Operation

end ApiContract
