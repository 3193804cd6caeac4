/-
# Interfaces

An interface is built from its description: the operations by path and method.  Requests
and responses that belong to no operation are none of its business.
-/
import ApiContract.Config
import ApiContract.Description.Component
import ApiContract.Exchange.Method
import ApiContract.Exchange.Operation
import ApiContract.Exchange.Route

namespace ApiContract

/-- The operations of one path. -/
abbrev Operations := List (Method × Operation)

/-- An interface. -/
structure Api where
  /-- The operations by path. -/
  routes : Routes Operations
  /-- The number of operations. -/
  operationCount : Nat
  /-- The choices of the user. -/
  config : Config
  /-- What requests and responses are validated with. -/
  validator : Validator

/-- Something about a description that its author should know. -/
inductive Warning where
  /-- There are no paths. -/
  | noPaths
  /-- A path refers to another place. -/
  | skippedPath (path : String) (reference : Value)
  /-- An operation cannot be built. -/
  | brokenOperation (path : String) (method : Method) (failure : Failure)

namespace Operation

/-- The parameters of lists of declarations, added to those before. -/
def addParameters (store : Store) (before : Parameters) (list : Value) :
    Except SchemaError Parameters :=
  match list with
  | .array declarations =>
    declarations.foldlM
      (fun (ps : Parameters) v => do
        let p ← Parameter.ofDeclaration (← Component.parameter.resolve store v)
        return ps.add p)
      before
  | _ => .error (.malformed "parameters must be an array")

/-- The parameters of a path and of an operation; those of the operation come later and
replace the others. -/
def parametersOf (store : Store) (lists : List (Option Value)) :
    Except SchemaError Parameters :=
  (lists.filterMap id).foldlM (addParameters store) []

/-- The declared body. -/
def bodyOf (store : Store) (declaration : Option Value) :
    Except SchemaError (Option RequestBody) :=
  match declaration with
  | none => .ok none
  | some v => do
    return some (← RequestBody.ofDeclaration (← Component.requestBody.resolve store v))

/-- The declared responses. -/
def responsesOf (store : Store) (declarations : Option Value) :
    Except SchemaError Responses :=
  match declarations with
  | none => .ok .empty
  | some (.object entries) =>
    entries.foldlM
      (fun (responses : Responses) (status, v) => do
        responses.add status (← Component.response.resolve store v))
      .empty
  | some _ => .error (.malformed "responses must be an object")

/-- The operation of a declaration; `path` is the declaration of its path. -/
def ofDeclaration (store : Store) (path declaration : Value) :
    Except SchemaError Operation := do
  let parameters ←
    parametersOf store [path.get? "parameters", declaration.get? "parameters"]
  let body ← bodyOf store (declaration.get? "requestBody")
  let responses ← responsesOf store (declaration.get? "responses")
  return ⟨parameters, body, responses⟩

end Operation

namespace Api

/-! ## Building -/

/-- Building an interface: warnings are noted in order, and a failure ends it. -/
abbrev Builder := ExceptT Failure (StateM (List Warning))

/-- Notes a warning. -/
def warn (warning : Warning) : Builder Unit :=
  modify fun warnings => warnings ++ [warning]

/-- An interface without operations. -/
def new (config : Config) (validator : Validator) : Api :=
  ⟨[], 0, config, validator⟩

/-- Adds the operations of a path, and counts them if there is a route for it. -/
def addOperations (api : Api) (path : String) (operations : Operations) : Except Failure Api :=
  match api.routes.add path operations with
  | .ok routes =>
    .ok { api with routes, operationCount := api.operationCount + operations.length }
  | .error fault => .error (.load (.route path fault))

/-- The operations that are declared for a path, in the order of their methods. -/
def operationsOf (store : Store) (path : String) (item : Value) :
    List Method → Builder Operations
  | [] => return []
  | m :: ms => do
    match item.get? m.key with
    | none => operationsOf store path item ms
    | some declaration =>
      match Operation.ofDeclaration store item declaration with
      | .ok op => return (m, op) :: (← operationsOf store path item ms)
      | .error e =>
        let failure := Failure.ofSchema e
        warn (.brokenOperation path m failure)
        throw failure

/-- An interface with the operations of the declared paths. -/
def addPaths (store : Store) : List (String × Value) → Api → Builder Api
  | [], api => return api
  | (path, item) :: items, api => do
    match item.get? "$ref" with
    | some reference =>
      warn (.skippedPath path reference)
      addPaths store items api
    | none =>
      let operations ← operationsOf store path item Method.all
      if operations.isEmpty then addPaths store items api
      else
        match api.addOperations path operations with
        | .ok api => addPaths store items api
        | .error failure => throw failure

/-- The interface that a document describes. -/
def build (document : Value) (config : Config) : Builder Api := do
  let store := Store.ofRoot "" document
  let api := Api.new config (config.validator store)
  match (document.get? "paths").bind Value.object? with
  | none =>
    warn .noPaths
    return api
  | some items => addPaths store items api

/-- The interface that a document describes, and the warnings. -/
def ofDocument (document : Value) (config : Config) : Except Failure Api × List Warning :=
  (build document config).run.run []

/-! ## Exchanges -/

/-- The value of a parameter in a path: decoded, if that gives a text. -/
def decodeParameter (raw : List Char) : String :=
  String.ofList ((Percent.decode? raw).getD raw)

/-- The operation for a path and a method, with the parameters of the path. -/
def find? (api : Api) (method : Method) (path : String) :
    Option (Operation × List (String × String)) := do
  let (operations, values) ← api.routes.find? path
  let op ← operations.lookup method
  return (op, Fields.ofPairs (values.map fun (name, raw) => (name, decodeParameter raw)))

/-- Checks a request, if there is an operation for it. -/
def checkRequest (api : Api) (method : Method) (path : String) (request : Request) :
    Option (Except Failure CheckedRequest) :=
  (api.find? method path).map fun (op, parameters) =>
    op.checkRequest api.validator parameters request

/-- Checks a response, if that is asked for and there is an operation for it. -/
def checkResponse (api : Api) (method : Method) (path : String) (response : Response) :
    Option (Except Failure Unit) :=
  if api.config.validateResponse then
    (api.find? method path).map fun (op, _) => op.checkResponse api.validator response
  else none

/-- The status to answer a failure with. -/
def status (api : Api) (failure : Failure) : Nat :=
  failure.status api.config.raise422

end Api

end ApiContract
