/-
# Requests and responses

The parts of an exchange that are checked, and the media types of bodies.
-/
import ApiContract.Schema.Error
import ApiContract.Value.Basic
import ApiContract.Text.Letters
import ApiContract.Text.Pieces

namespace ApiContract

/-- A request as it arrives. -/
structure Request where
  /-- The query. -/
  query : String := ""
  /-- The headers; the names are in lower case. -/
  headers : List (String × String) := []
  /-- The content type of the body. -/
  contentType : Option String := none
  /-- The body. -/
  body : List UInt8 := []

namespace Request

/-- A request with one more header.  A header that is there is replaced; the case of names
does not count. -/
def addHeader (request : Request) (name value : String) : Request :=
  { request with headers := Fields.insert (Text.lowerAscii name) value request.headers }

/-- The value of a header. -/
def header? (request : Request) (name : String) : Option String :=
  request.headers.lookup (Text.lowerAscii name)

end Request

/-- A response as it is produced. -/
structure Response where
  /-- The status. -/
  status : Nat
  /-- The content type of the body. -/
  contentType : Option String := none
  /-- The body. -/
  body : List UInt8 := []

/-! ## Media types -/

namespace MediaType

/-- The media type of JSON. -/
def json : String := "application/json"

/-- The media type that a content type names: in lower case, without parameters. -/
def ofContentType (contentType : String) : String :=
  let name := contentType.toList.takeWhile (· ≠ ';')
  Text.lowerAscii (String.ofList (Text.trim name))

end MediaType

/-- The media types of a body, each with the schema it has. -/
abbrev Content := List (String × Option Value)

/-- The media types that a declaration lists. -/
def Content.ofDeclaration (declaration : Value) : Except SchemaError Content :=
  match declaration.get? "content" with
  | none => .ok []
  | some (.object entries) =>
    .ok (Fields.ofPairs (entries.map fun (name, entry) =>
      (MediaType.ofContentType name, entry.get? "schema")))
  | some _ => .error (.malformed "content must be an object")

end ApiContract
