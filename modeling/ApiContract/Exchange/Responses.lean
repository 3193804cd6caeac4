/-
# Responses of an operation

Responses are declared for a status, for a class of statuses, or for all others.  The most
particular declaration is the one that counts.
-/
import ApiContract.Exchange.Message
import ApiContract.Schema.Validate

namespace ApiContract

/-- What a declaration of a response is for. -/
inductive StatusKey where
  /-- One status. -/
  | code (n : Nat)
  /-- The statuses of a hundred. -/
  | hundred (n : Nat)
  /-- All other statuses. -/
  | default
deriving DecidableEq, Repr

namespace StatusKey

/-- The key that a text denotes: `default`, three characters of a number, or a digit and
`XX` in any case. -/
def ofText? (text : String) : Option StatusKey :=
  if text = "default" then some default
  else
    match text.toList with
    | [a, b, c] =>
      if b.toUpper = 'X' ∧ c.toUpper = 'X' then
        if '1' ≤ a ∧ a ≤ '5' then some (hundred (a.toNat - '0'.toNat)) else none
      else (Number.readUnsigned16? [a, b, c]).map code
    | _ => none

end StatusKey

/-- The responses that an operation declares. -/
structure Responses where
  /-- The media types by key; the latest declaration of a key comes first. -/
  declared : List (StatusKey × Content)

namespace Responses

/-- No responses. -/
def empty : Responses := ⟨[]⟩

/-- The responses with one more declaration. -/
def add (responses : Responses) (status : String) (declaration : Value) :
    Except SchemaError Responses := do
  let content ← Content.ofDeclaration declaration
  match StatusKey.ofText? status with
  | some key => return ⟨(key, content) :: responses.declared⟩
  | none => throw (.malformed s!"invalid response status {Text.inQuotes status}")

/-- The declaration for a status. -/
def find? (responses : Responses) (status : Nat) : Option Content :=
  responses.declared.lookup (.code status)
    <|> responses.declared.lookup (.hundred (status / 100))
    <|> responses.declared.lookup .default

/-- The failure of a response that breaks its contract. -/
def broken (message : String) : Failure :=
  .responseContract (.one (.ofMessage message))

/-- Checks a body of JSON. -/
def checkJson (val : Validator) (schema : Value) (body : List UInt8) : Except Failure Unit :=
  match Json.ofBytes body with
  | .error fault =>
    let violation := Violation.ofMessage s!"invalid json response: {fault.mark}"
    .error (.responseContract (.one { violation with cause := some (.json fault) }))
  | .ok v =>
    match val.validate v schema with
    | .ok _ => .ok ()
    | .error (.invalid violations) => .error (.responseContract violations)
    | .error failure => .error failure

/-- Checks a response against a declaration.  Without declared media types the body must be
empty; a body that is not declared as JSON is not looked at. -/
def judge (content : Content) (val : Validator) (response : Response) : Except Failure Unit :=
  match content with
  | [] =>
    if response.body.isEmpty then .ok ()
    else .error (broken "invalid response: body must be empty")
  | content =>
    let isJson := response.contentType.any fun contentType =>
      MediaType.ofContentType contentType = MediaType.json
    match isJson, (content.lookup MediaType.json).join with
    | true, some schema => checkJson val schema response.body
    | _, _ => .ok ()

/-- Checks a response against the declaration for its status. -/
def check (responses : Responses) (val : Validator) (response : Response) :
    Except Failure Unit :=
  match responses.find? response.status with
  | none => .error (broken "invalid response status code")
  | some content => judge content val response

end Responses

end ApiContract
