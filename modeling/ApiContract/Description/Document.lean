/-
# Documents

The description of an interface is read from YAML or from JSON and says which version it
is written for.
-/
import ApiContract.Failure
import ApiContract.Value.Text
import ApiContract.Yaml.Reader

namespace ApiContract.Document

/-- The version that a document is written for; numbers count as their text. -/
def version? (document : Value) : Option String :=
  match document.get? "openapi" with
  | some (.string version) => some version
  | some (.number x) => some (Value.number x).text
  | some (.integer n) => some (Value.integer n).text
  | _ => none

/-- A document that is written for version three. -/
def checkVersion (document : Value) : Except LoadFault Value :=
  match version? document with
  | none => .error .missingVersion
  | some version =>
    if version.startsWith "3." then .ok document else .error (.unsupportedVersion version)

/-- The document that a text in YAML denotes. -/
def ofYaml (text : String) : Except LoadFault Value :=
  match Yaml.read? text with
  | some document => checkVersion document
  | none => .error .unreadableDocument

/-- The document that a text in JSON denotes. -/
def ofJson (path text : String) : Except LoadFault Value :=
  match Json.ofText text with
  | .ok document => checkVersion document
  | .error _ => .error (.unreadableText path)

/-- The name of the file at a path. -/
def fileName (path : List Char) : List Char :=
  ((Text.split '/' path).filter fun piece => piece ≠ [] && piece ≠ ['.']).getLast?.getD []

/-- What comes after the last point of the name of a file; nothing comes after a point at
its beginning. -/
def extension? (path : String) : Option (List Char) :=
  let backwards := (fileName path.toList).reverse
  match backwards.dropWhile (· ≠ '.') with
  | '.' :: _ :: _ => some (backwards.takeWhile (· ≠ '.')).reverse
  | _ => none

/-- The document of a file; the name of the file tells JSON from YAML. -/
def ofFile (path : String) (contents : Option String) : Except LoadFault Value :=
  match contents with
  | none => .error (.unreadableFile path)
  | some text =>
    if (extension? path).map (·.map Char.toLower) = some ['j', 's', 'o', 'n'] then
      ofJson path text
    else ofYaml text

end ApiContract.Document
