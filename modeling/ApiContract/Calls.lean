/-
# Calls

What a validator can be asked.  Calls that are made one after the other share a memory, so a
later one finds the tables as the earlier ones have left them, however these have ended.
-/
import ApiContract.Parameter.Coercion

namespace ApiContract

/-- A question to a validator. -/
inductive Call where
  /-- To validate a value against a schema. -/
  | validate (v schema : Value)
  /-- Whether a value satisfies a schema. -/
  | isValid (v schema : Value)
  /-- What violates a schema in a value. -/
  | violations (v schema : Value)
  /-- What stands for a missing value of a schema. -/
  | default (schema : Value)
  /-- What the strings in a value become under a schema. -/
  | coerce (schema v : Value)
  /-- Which type a schema declares. -/
  | declaredType (schema : Value)

/-- What a validator says, question by question. -/
inductive Answer where
  | validated (result : Except Failure Validated)
  | isValid (result : Except SchemaError Bool)
  | violations (result : Except SchemaError (List Violation))
  | default (result : Except SchemaError (Option Value))
  | coerced (result : Except CoercionError Value)
  | declaredType (result : Except SchemaError String)

namespace Validator

/-- The answer to a call, and the memory after it. -/
def answer (val : Validator) (memory : Memory) : Call → Answer × Memory
  | .validate v schema => (val.runOver memory (val.validated v schema)).map .validated id
  | .isValid v schema =>
    (val.runOver memory (val.violations v schema)).map
      (fun result => .isValid (result.map List.isEmpty)) id
  | .violations v schema => (val.runOver memory (val.violations v schema)).map .violations id
  | .default schema => (val.runOver memory (val.defaultOf schema)).map .default id
  | .coerce schema v => (val.runOver memory (val.coerced schema v)).map .coerced id
  | .declaredType schema =>
    (val.runOver memory (val.declaredType schema)).map .declaredType id

/-- The answers to calls that are made one after the other, and the memory after them. -/
def answers (val : Validator) (memory : Memory) : List Call → List Answer × Memory
  | [] => ([], memory)
  | call :: calls =>
    let (answer, memory) := val.answer memory call
    let (answers, memory) := val.answers memory calls
    (answer :: answers, memory)

end Validator

end ApiContract
