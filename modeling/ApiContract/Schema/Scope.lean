/-
# Scopes

References are read relative to the innermost scope.  A scope is the URI of the schema
that is being looked at; entering one joins its URI to the scope around it.
-/
import ApiContract.Schema.Store

namespace ApiContract

/-- The scopes that have been entered, innermost first. -/
abbrev Scopes := List String

namespace Scopes

/-- The innermost scope; empty if there is none. -/
def current (scopes : Scopes) : String :=
  scopes.headD ""

/-- Enters a scope. -/
def push (uri : String) (scopes : Scopes) : Scopes :=
  Reference.join scopes.current uri :: scopes

/-- Leaves the innermost scope. -/
def pop : Scopes → Except SchemaError Scopes
  | [] => .error .scopeUnderflow
  | _ :: scopes => .ok scopes

end Scopes

namespace Store

/-- The scopes before any has been entered: the root document alone. -/
def scopes (store : Store) : Scopes :=
  [store.baseUri]

/-- The URL that a reference names in some scopes, and the value there. -/
def resolve (store : Store) (scopes : Scopes) (reference : String) :
    Except SchemaError (String × Value) := do
  let url := Reference.join scopes.current reference
  return (url, ← store.resolveUrl url)

end Store

end ApiContract
