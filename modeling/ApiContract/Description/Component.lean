/-
# Components

Parameters, bodies and responses may be declared once among the components and referred to
from elsewhere.  A reference must lead to a component of its own kind.
-/
import ApiContract.Schema.Scope

namespace ApiContract

/-- A kind of component. -/
inductive Component where
  /-- A parameter. -/
  | parameter
  /-- The body of a request. -/
  | requestBody
  /-- A response. -/
  | response
deriving DecidableEq, Repr

namespace Component

/-- The beginning of the references to components of a kind. -/
def start : Component → String
  | parameter => "#/components/parameters/"
  | requestBody => "#/components/requestBodies/"
  | response => "#/components/responses/"

/-- How many references may be met on the way to a component. -/
def greatestDistance : Nat := 16

/-- What a declaration stands for; the number says how many references may be met. -/
def follow (store : Store) (kind : Component) : Nat → Value → Except SchemaError Value
  | 0, _ => .error (.referenceCycle kind.start)
  | n + 1, v =>
    match (v.get? "$ref").bind Value.string? with
    | none => .ok v
    | some reference =>
      if (Text.dropPrefix? kind.start.toList reference.toList).isNone then
        .error (.malformed
          s!"invalid reference: {reference}. Expected prefix: {kind.start}")
      else do
        let (_, target) ← store.resolve store.scopes reference
        follow store kind n target

/-- What a declaration stands for: itself, or the component that it refers to. -/
def resolve (store : Store) (kind : Component) (v : Value) : Except SchemaError Value :=
  follow store kind greatestDistance v

end Component

end ApiContract
