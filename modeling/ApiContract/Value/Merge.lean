/-
# Merging values

`merge` is a union in which the earlier value wins: objects are merged key by key, arrays
item by item.  `overlay` lays two changed copies of one value over each other so that the
changes of both survive.
-/
import ApiContract.Value.Basic

namespace ApiContract.Value

mutual

/-- The union of two values.  Objects keep their keys and gain those of the other, arrays
gain the items beyond their length, and in any other case the first value stays. -/
def merge (base other : Value) : Value :=
  match other with
  | object gs =>
    match base with
    | object fs => object (mergeFields fs gs)
    | _ => base
  | array ys =>
    match base with
    | array xs => array (mergeItems xs ys)
    | _ => base
  | _ => base

/-- The union of two objects. -/
def mergeFields (fs : Fields) : List (String × Value) → Fields
  | [] => fs
  | (k, w) :: gs =>
    match fs.lookup k with
    | some v => mergeFields (Fields.insert k (merge v w) fs) gs
    | none => mergeFields (Fields.insert k w fs) gs

/-- The union of two arrays. -/
def mergeItems (xs : List Value) : List Value → List Value
  | [] => xs
  | y :: ys =>
    match xs with
    | [] => y :: mergeItems [] ys
    | x :: xs => merge x y :: mergeItems xs ys

end

/-- The union of a list of values; none if there are no values. -/
def mergeAll : List Value → Option Value
  | [] => none
  | v :: vs => some (vs.foldl merge v)

mutual

/-- Two changed copies of `source` laid over each other; `equal` tells whether a copy is still the
source. -/
def overlayBy (equal : Value → Value → Bool) (source earlier later : Value) : Value :=
  if equal later source then earlier
  else if equal earlier source then later
  else match later with
    | object changes =>
      match source, earlier with
      | object base, object fields => object (overlayFieldsBy equal base fields changes)
      | _, _ => later
    | array changes =>
      match source, earlier with
      | array base, array items => array (overlayItemsBy equal base items changes)
      | _, _ => later
    | _ => later

/-- The fields of two changed copies of an object. -/
def overlayFieldsBy (equal : Value → Value → Bool) (base fields : Fields) :
    List (String × Value) → Fields
  | [] => fields
  | (k, w) :: changes =>
    match fields.lookup k with
    | some v =>
      match base.lookup k with
      | some o =>
        overlayFieldsBy equal base (Fields.insert k (overlayBy equal o v w) fields) changes
      | none => overlayFieldsBy equal base (Fields.insert k (merge v w) fields) changes
    | none => overlayFieldsBy equal base (Fields.insert k w fields) changes

/-- The items of two changed copies of an array. -/
def overlayItemsBy (equal : Value → Value → Bool) (base items : List Value) :
    List Value → List Value
  | [] => items
  | w :: changes =>
    match items with
    | [] => w :: overlayItemsBy equal base.tail [] changes
    | v :: items =>
      match base with
      | o :: base => overlayBy equal o v w :: overlayItemsBy equal base items changes
      | [] => merge v w :: overlayItemsBy equal [] items changes

end

/-- Two changed copies of `source` laid over each other.  What only one of them changed
comes from that one; where both changed the same leaf, the later one wins. -/
def overlay (source earlier later : Value) : Value :=
  overlayBy (· == ·) source earlier later

end ApiContract.Value
