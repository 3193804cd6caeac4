/-
# The parameters of an operation

Parameters are told apart by location and name.  All of them are checked before invalid
input is reported; any other failure is reported at once.
-/
import ApiContract.Parameter.Basic

namespace ApiContract

/-- The parameters of an operation, in the order of their declaration. -/
abbrev Parameters := List Parameter

namespace Parameters

/-- Whether two parameters have the same location and name. -/
def clash (p q : Parameter) : Bool :=
  p.location = q.location && p.name = q.name

/-- The parameters with one more, in the place of the one that it replaces. -/
def add (p : Parameter) : Parameters → Parameters
  | [] => [p]
  | q :: qs => if clash p q then p :: qs else q :: add p qs

/-- The values of parameters by name, and their violations, added to those before. -/
def collect (val : Validator) (source : Source) :
    Parameters → List (String × Value) → List Violation →
      Except Failure (List (String × Value) × List Violation)
  | [], values, violations => .ok (values, violations)
  | p :: ps, values, violations =>
    match p.check val source with
    | .ok (some v) => collect val source ps (Fields.insert p.name v values) violations
    | .ok none => collect val source ps values violations
    | .error (.invalid more) => collect val source ps values (violations ++ more.toList)
    | .error failure => .error failure

/-- Checks all parameters; the result are the values of those that are there. -/
def check (ps : Parameters) (val : Validator) (source : Source) :
    Except Failure (List (String × Value)) := do
  let (values, violations) ← collect val source ps [] []
  match Violations.ofList? violations with
  | some violations => throw (.invalid violations)
  | none => return values

end Parameters

end ApiContract
