/-
# Locations and styles of parameters

Where a parameter travels, and how its value is written there.
-/
import ApiContract.Schema.Error

namespace ApiContract

/-- Where a parameter travels. -/
inductive Location where
  /-- In the path. -/
  | path
  /-- In the query. -/
  | query
  /-- In a header. -/
  | header
  /-- In a cookie. -/
  | cookie
deriving DecidableEq, Repr

namespace Location

/-- The name of a location. -/
def name : Location → String
  | path => "path"
  | query => "query"
  | header => "header"
  | cookie => "cookie"

/-- The location with a name. -/
def ofName (s : String) : Except SchemaError Location :=
  match [path, query, header, cookie].find? fun l => l.name = s with
  | some l => .ok l
  | none => .error (.malformed s!"unknown parameter location {Text.inQuotes s}")

end Location

/-- How the value of a parameter is written. -/
inductive Style where
  /-- Parts separated by commas. -/
  | simple
  /-- Pairs of a form. -/
  | form
  /-- Pairs of a form with the keys of an object in brackets. -/
  | deepObject
  /-- Parts after semicolons. -/
  | matrix
  /-- Parts after points. -/
  | label
  /-- Parts separated by spaces. -/
  | spaceDelimited
  /-- Parts separated by bars. -/
  | pipeDelimited
deriving DecidableEq, Repr

namespace Style

/-- All styles. -/
def all : List Style :=
  [simple, form, deepObject, matrix, label, spaceDelimited, pipeDelimited]

/-- The name of a style. -/
def name : Style → String
  | simple => "simple"
  | form => "form"
  | deepObject => "deepObject"
  | matrix => "matrix"
  | label => "label"
  | spaceDelimited => "spaceDelimited"
  | pipeDelimited => "pipeDelimited"

/-- The style with a name. -/
def ofName (s : String) : Except SchemaError Style :=
  match all.find? fun style => style.name = s with
  | some style => .ok style
  | none => .error (.malformed s!"unknown parameter style {Text.inQuotes s}")

/-- The style of a location if none is given. -/
def ofLocation : Location → Style
  | .query | .cookie => form
  | .path | .header => simple

/-- Whether the parts of a value are written apart if nothing is said about it. -/
def explodes (style : Style) : Bool :=
  style = form

/-- Whether values of a style can be read at all. -/
def isSupported : Style → Bool
  | simple | form | deepObject => true
  | matrix | label | spaceDelimited | pipeDelimited => false

end Style

end ApiContract
