/-
# Queries

A query is a sequence of fields `key=value`.  Fields with the same key are collected in
the order in which they arrive.
-/
import ApiContract.Parameter.Strategy

namespace ApiContract

/-- The values of a query by key. -/
abbrev Query := List (String × List String)

namespace Query

/-- A query with one more field. -/
def add (key value : String) (query : Query) : Query :=
  Fields.insert key ((query.lookup key).getD [] ++ [value]) query

/-- The fields of a query; every one must have an `=`. -/
def fields : List (List Char) → Except StyleError (List (String × String))
  | [] => .ok []
  | piece :: pieces =>
    match formField? piece with
    | some field => do return field :: (← fields pieces)
    | none => .error (.malformedQuery (String.ofList piece))

/-- The query that a text denotes. -/
def ofText (text : String) : Except StyleError Query :=
  if text = "" then .ok []
  else do
    let pairs ← fields (Text.split '&' text.toList)
    return pairs.foldl (fun query (key, value) => query.add key value) []

/-- The key in brackets after a name. -/
def bracketed? (name key : String) : Option String := do
  let rest ← Text.dropPrefix? name.toList key.toList
  let rest ← Text.dropPrefix? ['['] rest
  let inner ← Text.dropSuffix? [']'] rest
  return String.ofList inner

/-- The object whose fields are written `name[key]=value`; none if there are no such
fields.  Of several values of one key the first counts. -/
def deepObject? (name : String) (query : Query) : Option Value :=
  let fields := query.filterMap fun (key, values) => do
    let inner ← bracketed? name key
    let first ← values.head?
    return (inner, Value.string first)
  if fields.isEmpty then none else some (.object (Fields.ofPairs fields))

end Query

end ApiContract
