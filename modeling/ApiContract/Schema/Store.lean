/-
# Documents and references

A store holds documents under their URIs.  A reference is joined to the URI of the scope
it stands in; the document it names is found by its URI without the fragment, and the
fragment is a pointer into the document.
-/
import ApiContract.Schema.Error
import ApiContract.Schema.Pointer
import ApiContract.Url.Reader

namespace ApiContract

namespace Reference

/-- A URI without its fragment, and the fragment. -/
def cutFragment (uri : List Char) : List Char × List Char :=
  (Text.cut '#' uri).getD (uri, [])

/-- The form of a URI under which documents are found: without its fragment, and in the
usual spelling if it is a URL. -/
def normalize (uri : String) : String :=
  let (document, _) := cutFragment uri.toList
  match Url.read? document with
  | some url => String.ofList url.text
  | none => String.ofList document

/-- A reference joined to a base.  A base that is no URL, or has no path to join to, still
takes a fragment. -/
def join (base reference : String) : String :=
  if base = "" then reference
  else
    match (Url.read? base.toList).bind (Url.join? · reference.toList) with
    | some url => String.ofList url.text
    | none =>
      match reference.toList with
      | '#' :: fragment => String.ofList ((cutFragment base.toList).1 ++ '#' :: fragment)
      | _ => reference

end Reference

/-- Documents by URI. -/
structure Store where
  /-- The URI of the root document; may be empty. -/
  baseUri : String
  /-- The documents by normalized URI. -/
  documents : List (String × Value)

namespace Store

/-- The store of one document. -/
def ofRoot (baseUri : String) (root : Value) : Store :=
  ⟨baseUri, [(Reference.normalize baseUri, root)]⟩

/-- Adds a document, or replaces the one with the same URI. -/
def add (store : Store) (uri : String) (document : Value) : Store :=
  { store with documents := Fields.insert (Reference.normalize uri) document store.documents }

/-- The root document. -/
def root (store : Store) : Value :=
  (store.documents.lookup (Reference.normalize store.baseUri)).getD .null

/-- The value inside a document that a pointer leads to. -/
def resolvePointer (document : Value) (pointer : List Char) : Except SchemaError Value :=
  match Pointer.resolve? pointer document with
  | some v => .ok v
  | none =>
    .error (.unresolvablePointer (String.ofList (pointer.dropWhile (· = '/'))))

/-- The value that an absolute URL names. -/
def resolveUrl (store : Store) (url : String) : Except SchemaError Value :=
  let (document, fragment) := Reference.cutFragment url.toList
  match store.documents.lookup (Reference.normalize (String.ofList document)) with
  | some v => resolvePointer v fragment
  | none => .error (.unresolvableReference url)

end Store

end ApiContract
