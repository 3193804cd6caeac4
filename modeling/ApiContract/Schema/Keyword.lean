/-
# Keywords

The keywords that constrain an instance, in the order in which they are evaluated.  The
order decides how violations are listed and which of two changes to one leaf survives.
-/

namespace ApiContract

/-- A keyword of a schema that constrains the instance. -/
inductive Keyword where
  | ref | type | enum
  | minLength | maxLength | pattern
  | minimum | maximum | multipleOf
  | properties | patternProperties | additionalProperties | required
  | minProperties | maxProperties | dependencies
  | items | additionalItems | minItems | maxItems | uniqueItems
  | allOf | anyOf | oneOf | not
  | format
deriving DecidableEq, Repr

namespace Keyword

/-- The order of evaluation. -/
def order : List Keyword :=
  [ref, type, enum, minLength, maxLength, pattern, minimum, maximum, multipleOf, properties,
    patternProperties, additionalProperties, required, minProperties, maxProperties,
    dependencies, items, additionalItems, minItems, maxItems, uniqueItems, allOf, anyOf, oneOf,
    not, format]

/-- The name of a keyword inside a schema. -/
def name : Keyword → String
  | ref => "$ref"
  | type => "type"
  | enum => "enum"
  | minLength => "minLength"
  | maxLength => "maxLength"
  | pattern => "pattern"
  | minimum => "minimum"
  | maximum => "maximum"
  | multipleOf => "multipleOf"
  | properties => "properties"
  | patternProperties => "patternProperties"
  | additionalProperties => "additionalProperties"
  | required => "required"
  | minProperties => "minProperties"
  | maxProperties => "maxProperties"
  | dependencies => "dependencies"
  | items => "items"
  | additionalItems => "additionalItems"
  | minItems => "minItems"
  | maxItems => "maxItems"
  | uniqueItems => "uniqueItems"
  | allOf => "allOf"
  | anyOf => "anyOf"
  | oneOf => "oneOf"
  | not => "not"
  | format => "format"

/-- The keyword with a name; names that only annotate belong to none. -/
def ofName? (s : String) : Option Keyword :=
  order.find? fun k => k.name = s

/-- The place of a keyword in the order of evaluation. -/
def place? (k : Keyword) : Option Nat :=
  order.findIdx? (· = k)

end Keyword

end ApiContract
