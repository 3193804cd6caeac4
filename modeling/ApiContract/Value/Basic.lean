/-
# Values

The value model shared by schema documents and by the instances judged against them.
Besides the shapes of JSON an instance may hold typed leaves, which stand for the strings
they were read from.  An object is a list of fields; reading and updating keep its keys
unique and in the order of their first appearance.
-/
import ApiContract.Number.Integer
import ApiContract.Number.Double
import ApiContract.Leaf.Timestamp
import ApiContract.Leaf.Address

namespace ApiContract

/-- A value of a document or an instance. -/
inductive Value where
  /-- The null value. -/
  | null
  /-- A truth value. -/
  | bool (b : Bool)
  /-- A whole number of 64 bits. -/
  | integer (n : Int64)
  /-- A double-precision number. -/
  | number (x : Float)
  /-- A text. -/
  | string (s : String)
  /-- A sequence of values. -/
  | array (items : List Value)
  /-- A sequence of named values. -/
  | object (fields : List (String × Value))
  /-- A calendar date. -/
  | date (d : Date)
  /-- A timestamp. -/
  | dateTime (t : Timestamp)
  /-- A byte sequence. -/
  | bytes (bs : List UInt8)
  /-- An internet address. -/
  | ip (a : Address)

/-- The fields of an object. -/
abbrev Fields := List (String × Value)

namespace Fields

variable {α : Type}

/-- The fields with a key set to a value: in place if the key is there, else at the end. -/
def insert (key : String) (value : α) : List (String × α) → List (String × α)
  | [] => [(key, value)]
  | (k, v) :: fields =>
    if k = key then (k, value) :: fields else (k, v) :: insert key value fields

/-- The fields of a list of pairs: a repeated key keeps its first place and its last
value. -/
def ofPairs (pairs : List (String × α)) : List (String × α) :=
  pairs.foldl (fun fields (key, value) => insert key value fields) []

/-- Whether a key is present. -/
def has (key : String) (fields : List (String × α)) : Bool :=
  (fields.lookup key).isSome

/-- The keys in order. -/
def keys (fields : List (String × α)) : List String :=
  fields.map Prod.fst

end Fields

namespace Value

instance : Inhabited Value := ⟨null⟩

/-! ## Views -/

/-- Whether this is the null value. -/
def isNull : Value → Bool
  | null => true
  | _ => false

/-- Whether this is an object or an array. -/
def isContainer : Value → Bool
  | object _ | array _ => true
  | _ => false

/-- Whether this is an integer or a double; truth values are no numbers. -/
def isNumber : Value → Bool
  | integer _ | number _ => true
  | _ => false

/-- Whether this is a typed leaf. -/
def isTyped : Value → Bool
  | date _ | dateTime _ | bytes _ | ip _ => true
  | _ => false

/-- The text of a string. -/
def string? : Value → Option String
  | string s => some s
  | _ => none

/-- The truth value. -/
def bool? : Value → Option Bool
  | bool b => some b
  | _ => none

/-- The integer. -/
def integer? : Value → Option Int64
  | integer n => some n
  | _ => none

/-- The number as a double. -/
def number? : Value → Option Float
  | integer n => some (Number.ofInteger n.toInt)
  | number x => some x
  | _ => none

/-- The number as a natural number of 64 bits: integers that are not negative, and whole
doubles that are not negative, the larger ones cut down to the greatest such number. -/
def natural? : Value → Option Nat
  | integer n => if 0 ≤ n.toInt then some n.toInt.toNat else none
  | number x =>
    if 0 ≤ x && Number.isWhole x then
      some (min (Number.truncation x) Number.greatestUnsigned64.toNat)
    else none
  | _ => none

/-- The items of an array. -/
def array? : Value → Option (List Value)
  | array items => some items
  | _ => none

/-- The fields of an object. -/
def object? : Value → Option Fields
  | object fields => some fields
  | _ => none

/-- The value under a key of an object. -/
def get? (key : String) : Value → Option Value
  | object fields => fields.lookup key
  | _ => none

/-- The name of the kind of value, as messages give it. -/
def kind : Value → String
  | null => "null"
  | bool _ => "boolean"
  | integer _ => "integer"
  | number _ => "number"
  | string _ => "string"
  | array _ => "array"
  | object _ => "object"
  | date _ => "date"
  | dateTime _ => "date-time"
  | bytes _ => "byte"
  | ip _ => "ip"

/-- The value of an integer that fits in 64 bits, else the nearest double. -/
def ofInt (n : Int) : Value :=
  if Number.least64 ≤ n ∧ n ≤ Number.greatest64 then integer (Int64.ofInt n)
  else number (Number.ofInteger n)

/-! ## Equality

Numbers are compared by value, objects without regard to the order of their keys, and
timestamps by the instant they denote. -/

mutual

/-- Whether two values are equal. -/
def same : Value → Value → Bool
  | null, null => true
  | bool a, bool b => a == b
  | integer a, integer b => a == b
  | integer a, number y => Number.ofInteger a.toInt == y
  | number x, integer b => x == Number.ofInteger b.toInt
  | number x, number y => x == y
  | string s, string t => s == t
  | array xs, array ys => sameItems xs ys
  | object fs, object gs => fs.length == gs.length && sameFields fs gs
  | date d, date e => d == e
  | dateTime t, dateTime u => t.same u
  | bytes a, bytes b => a == b
  | ip a, ip b => a == b
  | _, _ => false

/-- Whether two sequences have the same length and equal items. -/
def sameItems : List Value → List Value → Bool
  | [], [] => true
  | x :: xs, y :: ys => same x y && sameItems xs ys
  | _, _ => false

/-- Whether every field has an equal counterpart under its key. -/
def sameFields : List (String × Value) → Fields → Bool
  | [], _ => true
  | (k, v) :: fs, gs =>
    (match gs.lookup k with
      | some w => same v w
      | none => false) && sameFields fs gs

end

instance : BEq Value := ⟨same⟩

end Value

end ApiContract
