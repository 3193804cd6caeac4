/-
# Taking texts apart

The style of a parameter and the type of its value decide how its text is taken apart into
strings.
-/
import ApiContract.Parameter.Style
import ApiContract.Schema.Violation
import ApiContract.Text.Percent

namespace ApiContract

/-- How a text is taken apart. -/
inductive Strategy where
  /-- Not at all. -/
  | passThrough
  /-- Into items, as in `a,b,c`. -/
  | splitList
  /-- Into fields, as in `k=v,l=w`. -/
  | splitPairs
  /-- Into fields, as in `k,v,l,w`. -/
  | splitFlat
deriving DecidableEq, Repr

/-- Whether a type is that of values without parts. -/
def isPrimitive (type : String) : Bool :=
  ["string", "integer", "number", "boolean"].contains type

/-- A pair of a form, decoded, if there is an `=`. -/
def formField? (cs : List Char) : Option (String × String) :=
  if cs.contains '=' then (Percent.formPairs cs).head? else none

namespace Strategy

/-- The name of a strategy. -/
def name : Strategy → String
  | passThrough => "PassThrough"
  | splitList => "SplitList"
  | splitPairs => "SplitPairs"
  | splitFlat => "SplitFlat"

/-- The strategy for a style and a type. -/
def choose (style : Style) (explode : Bool) (type : String) : Except SchemaError Strategy :=
  match style, if isPrimitive type then "string" else type, explode with
  | .simple, "string", _ => .ok passThrough
  | .simple, "array", _ => .ok splitList
  | .simple, "object", true => .ok splitPairs
  | .simple, "object", false => .ok splitFlat
  | .form, "string", _ => .ok passThrough
  | .form, "array", true => .ok passThrough
  | .form, "array", false => .ok splitList
  | .form, "object", false => .ok splitFlat
  | _, _, _ => .error (.unsupported s!"style={style.name}, explode={explode}, type={type}")

/-- The fields of pairs with `=`. -/
def pairFields : List (List Char) → Except StyleError (List (String × Value))
  | [] => .ok []
  | piece :: pieces =>
    match formField? piece with
    | some (key, value) => do return (key, .string value) :: (← pairFields pieces)
    | none => .error (.malformedPair (String.ofList piece))

/-- The fields of keys and values in turn. -/
def flatFields : List (List Char) → List (String × Value)
  | key :: value :: pieces =>
    (String.ofList key, .string (String.ofList value)) :: flatFields pieces
  | _ => []

/-- Takes a text apart. -/
def apply (strategy : Strategy) (text : String) : Except StyleError Value :=
  let pieces := Text.split ',' text.toList
  match strategy with
  | passThrough => .ok (.string text)
  | splitList => .ok (.array (pieces.map fun piece => .string (String.ofList piece)))
  | splitPairs => do return .object (Fields.ofPairs (← pairFields pieces))
  | splitFlat =>
    if pieces.length % 2 = 0 then .ok (.object (Fields.ofPairs (flatFields pieces)))
    else .error (.oddPairs pieces.length)

end Strategy

end ApiContract
