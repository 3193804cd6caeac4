/-
# Faults of routes

Why the template of a path cannot be added to a table of routes.
-/

namespace ApiContract

/-- What is wrong with the template of a path. -/
inductive RouteFault where
  /-- It matches what a template before it matches. -/
  | conflict
  /-- There are two parameters between two slashes. -/
  | tooManyParameters
  /-- A parameter has no name, or a brace does not fit. -/
  | invalidName
  /-- Something follows a parameter that takes all the rest. -/
  | restNotLast
deriving DecidableEq, Repr

/-- The wording of a fault. -/
def RouteFault.message : RouteFault → String
  | conflict => "Insertion failed due to conflict"
  | tooManyParameters => "Only one parameter is allowed per path segment"
  | invalidName => "Parameters must be registered with a valid name"
  | restNotLast => "Catch-all parameters are only allowed at the end of a route"

end ApiContract
