/-
# Failures

What a check of an exchange may end with.  The caller answers for invalid input and for
content types that are not declared; the service answers for everything else.
-/
import ApiContract.Schema.Violation
import ApiContract.Exchange.RouteFault
import ApiContract.Schema.Walk

namespace ApiContract

/-- Why a description or a configuration cannot be used. -/
inductive LoadFault where
  /-- The text of a description cannot be read. -/
  | unreadableDocument
  /-- The text of a configuration cannot be read. -/
  | unreadableConfig
  /-- The text of a file cannot be read. -/
  | unreadableText (path : String)
  /-- A file cannot be read. -/
  | unreadableFile (path : String)
  /-- The description does not say which version it is written for. -/
  | missingVersion
  /-- The description is written for another version. -/
  | unsupportedVersion (version : String)
  /-- A path cannot be routed. -/
  | route (path : String) (fault : RouteFault)
deriving DecidableEq, Repr

/-- The wording of a fault. -/
def LoadFault.message : LoadFault → String
  | unreadableDocument => "failed to parse OpenAPI document"
  | unreadableConfig => "invalid validator configuration"
  | unreadableText path => s!"failed to parse {path}"
  | unreadableFile path => s!"failed to read {path}"
  | missingVersion => "missing `openapi` version field"
  | unsupportedVersion version =>
    s!"unsupported OpenAPI version {version}; only 3.x is supported"
  | route path fault => s!"failed to add route '{path}': {fault.message}"

/-- Why an exchange does not pass, or cannot be checked. -/
inductive Failure where
  /-- The input violates its schemas. -/
  | invalid (violations : Violations)
  /-- The description uses something that is not supported. -/
  | unsupported (feature : String)
  /-- The description holds a broken schema. -/
  | schema (error : SchemaError)
  /-- The content type of a request is not declared. -/
  | notAcceptable (contentType : Option String)
  /-- A response violates its declaration. -/
  | responseContract (violations : Violations)
  /-- The description or the configuration cannot be used. -/
  | load (fault : LoadFault)

namespace Failure

/-- The failure that a broken schema leads to. -/
def ofSchema : SchemaError → Failure
  | .unsupported feature => unsupported feature
  | error => schema error

/-- The failure of a single violation of the input. -/
def ofViolation (v : Violation) : Failure :=
  invalid (.one v)

/-- The wording of a failure. -/
def message : Failure → String
  | invalid violations => violations.text
  | unsupported feature => s!"unsupported: {feature}"
  | schema error => s!"schema error: {error.message}"
  | notAcceptable contentType =>
    let name := contentType.getD "(none)"
    s!"content type {name} is not acceptable"
  | responseContract violations =>
    s!"response violates the declared contract: {violations.text}"
  | load fault => s!"failed to load OpenAPI document: {fault.message}"

/-- The status to answer with; `unprocessable` if invalid input is answered with 422. -/
def status (unprocessable : Bool) : Failure → Nat
  | invalid _ => if unprocessable then 422 else 400
  | notAcceptable _ => 406
  | unsupported _ | schema _ | responseContract _ | load _ => 500

/-- Whether the caller answers for a failure. -/
def isClientSide : Failure → Bool
  | invalid _ | notAcceptable _ => true
  | unsupported _ | schema _ | responseContract _ | load _ => false

/-- The violations of either side. -/
def violations? : Failure → Option Violations
  | invalid violations | responseContract violations => some violations
  | _ => none

end Failure

instance : SchemaFault Failure where
  ofSchema := Failure.ofSchema
  ofSchema_inj {e e'} h := by cases e <;> cases e' <;> simp_all [Failure.ofSchema]

end ApiContract
