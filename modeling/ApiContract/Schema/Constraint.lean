/-
# Constraints on a value

The keywords that look at a value without its parts being validated.  Each one says which
messages a value earns; a keyword that does not apply to the kind of the value earns none.
A keyword whose own value is not what it should be makes the schema broken.
-/
import ApiContract.Schema.Error
import ApiContract.Schema.Keyword
import ApiContract.Number.Double
import ApiContract.Value.Text

namespace ApiContract.Constraint

/-- The error of a keyword that is not what it should be. -/
def malformed (k : Keyword) (expected : String) : SchemaError :=
  .malformed s!"{k.name} must be {expected}"

/-- The messages of a constraint. -/
abbrev Messages := Except SchemaError (List String)

/-- A message if a constraint fails. -/
def expect (holds : Bool) (message : String) : Messages :=
  .ok (if holds then [] else [message])

/-! ## Types and alternatives -/

/-- Whether a value is of a type.  Typed leaves are strings, integers are numbers, and
truth values are neither. -/
def hasType (v : Value) (type : String) : Except SchemaError Bool :=
  match type with
  | "array" => .ok v.array?.isSome
  | "object" => .ok v.object?.isSome
  | "null" => .ok v.isNull
  | "boolean" => .ok v.bool?.isSome
  | "integer" => .ok v.integer?.isSome
  | "number" => .ok v.isNumber
  | "string" => .ok (v.string?.isSome || v.isTyped)
  | _ => .error (.unknownType type)

/-- Whether a value is of one of some types; types after the first match are not looked
at. -/
def hasSomeType (v : Value) : List String → Except SchemaError Bool
  | [] => .ok false
  | type :: types => do
    if ← hasType v type then return true
    hasSomeType v types

/-- The names of the types that a keyword lists. -/
def typeNames (value : Value) : Except SchemaError (List String) :=
  let fault := malformed .type "a string or an array of strings"
  match value with
  | .string name => .ok [name]
  | .array names => names.mapM fun name => name.string?.elim (.error fault) .ok
  | _ => .error fault

/-- The value is of one of the types. -/
def type (v value : Value) : Messages := do
  let names ← typeNames value
  let listed := Text.joinStrings ", " names
  expect (← hasSomeType v names) s!"{v.text} is not of type {listed}"

/-- The value is one of the options. -/
def enum (v value : Value) : Messages :=
  match value with
  | .array options => expect (options.any (· == v)) s!"{v.text} is not one of {value.text}"
  | _ => .error (malformed .enum "an array")

/-! ## Sizes -/

/-- The bound that a keyword states. -/
def bound (k : Keyword) (value : Value) : Except SchemaError Nat :=
  value.natural?.elim (.error (malformed k "a non-negative integer")) .ok

/-- A size is at least the bound, if the value has that size. -/
def atLeast (k : Keyword) (size : Option Nat) (value : Value) (message : String) :
    Messages := do
  let n ← bound k value
  expect (size.all (n ≤ ·)) message

/-- A size is at most the bound, if the value has that size. -/
def atMost (k : Keyword) (size : Option Nat) (value : Value) (message : String) :
    Messages := do
  let n ← bound k value
  expect (size.all (· ≤ n)) message

/-- The number of characters of a string; typed leaves have none. -/
def characters (v : Value) : Option Nat :=
  v.string?.map String.length

/-- The number of items of an array. -/
def itemCount (v : Value) : Option Nat :=
  v.array?.map List.length

/-- The number of fields of an object. -/
def fieldCount (v : Value) : Option Nat :=
  v.object?.map List.length

/-- A string has enough characters. -/
def minLength (v value : Value) : Messages :=
  atLeast .minLength (characters v) value s!"{v.text} is too short"

/-- A string has not too many characters. -/
def maxLength (v value : Value) : Messages :=
  atMost .maxLength (characters v) value s!"{v.text} is too long"

/-- An array has enough items. -/
def minItems (v value : Value) : Messages :=
  atLeast .minItems (itemCount v) value s!"{v.text} is too short"

/-- An array has not too many items. -/
def maxItems (v value : Value) : Messages :=
  atMost .maxItems (itemCount v) value s!"{v.text} is too long"

/-- An object has enough fields. -/
def minProperties (v value : Value) : Messages :=
  atLeast .minProperties (fieldCount v) value s!"{v.text} does not have enough properties"

/-- An object has not too many fields. -/
def maxProperties (v value : Value) : Messages :=
  atMost .maxProperties (fieldCount v) value s!"{v.text} has too many properties"

/-! ## Numbers -/

/-- How two numbers compare; not at all if one of them is no number in truth. -/
def compare? (a b : Value) : Option Ordering :=
  match a, b with
  | .integer m, .integer n => some (compare m.toInt n.toInt)
  | _, _ => do
    let x ← a.number?
    let y ← b.number?
    if x < y then some .lt else if x == y then some .eq else if y < x then some .gt else none

/-- Whether a bound is exclusive: a flag beside it says so. -/
def isExclusive (flag : String) (schema : Fields) : Bool :=
  ((schema.lookup flag).bind Value.bool?) = some true

/-- A number is not below the bound, or above it if the bound is exclusive. -/
def minimum (schema : Fields) (v value : Value) : Messages :=
  if !value.isNumber then .error (malformed .minimum "a number")
  else if !v.isNumber then .ok []
  else if isExclusive "exclusiveMinimum" schema then
    expect (compare? v value = some .gt)
      s!"{v.text} is less than or equal to the minimum of {value.text}"
  else expect (compare? v value ≠ some .lt) s!"{v.text} is less than the minimum of {value.text}"

/-- A number is not above the bound, or below it if the bound is exclusive. -/
def maximum (schema : Fields) (v value : Value) : Messages :=
  if !value.isNumber then .error (malformed .maximum "a number")
  else if !v.isNumber then .ok []
  else if isExclusive "exclusiveMaximum" schema then
    expect (compare? v value = some .lt)
      s!"{v.text} is greater than or equal to the maximum of {value.text}"
  else
    expect (compare? v value ≠ some .gt) s!"{v.text} is greater than the maximum of {value.text}"

/-- Whether a value is a multiple of a divisor that is not zero.  A double as divisor
leaves a whole quotient, an integer no remainder; values that are no numbers pass. -/
def isMultiple (v divisor : Value) : Bool :=
  match divisor, v with
  | .number d, v => v.number?.all fun x => Number.isTruncated (x / d)
  | .integer d, .integer n => n.toInt.tmod d.toInt = 0
  | .integer d, .number x => !Number.hasRemainder x (Number.ofInteger d.toInt)
  | _, _ => true

/-- A number is a multiple of another. -/
def multipleOf (v value : Value) : Messages :=
  match value.number? with
  | none => .error (malformed .multipleOf "a number")
  | some d =>
    if d == 0 then .error (malformed .multipleOf "non-zero")
    else expect (isMultiple v value) s!"{v.text} is not a multiple of {value.text}"

/-! ## Arrays and objects -/

/-- Whether no two items of a list are equal. -/
def areDistinct : List Value → Bool
  | [] => true
  | v :: vs => !vs.any (· == v) && areDistinct vs

/-- The items of an array are distinct, if that is asked for. -/
def uniqueItems (v value : Value) : Messages :=
  match value with
  | .bool enabled =>
    expect (!enabled || v.array?.all areDistinct) s!"{v.text} has non-unique elements"
  | _ => .error (malformed .uniqueItems "a boolean")

/-- An object has some fields; each one that is missing earns a message. -/
def required (v value : Value) : Messages :=
  match value with
  | .array names =>
    match v with
    | .object fields => do
      let names ← names.mapM fun name =>
        name.string?.elim (.error (malformed .required "an array of strings")) .ok
      return (names.filter fun name => !Fields.has name fields).map
        fun name => s!"'{name}' is a required property"
    | _ => .ok []
  | _ => .error (malformed .required "an array of strings")

end ApiContract.Constraint
