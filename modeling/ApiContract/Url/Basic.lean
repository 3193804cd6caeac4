/-
# URLs

A URL is taken apart into scheme, authority, path, query and fragment, all of them in the
encoded form in which they are written.
-/
import ApiContract.Text.Pieces
import ApiContract.Text.Letters

namespace ApiContract

/-- The path of a URL. -/
inductive UrlPath where
  /-- A text without structure, as in `mailto:a@b`. -/
  | opaqueText (text : List Char)
  /-- Segments, each written after a slash. -/
  | segments (parts : List (List Char))
deriving DecidableEq, Repr

/-- A URL. -/
structure Url where
  /-- The scheme, without its colon. -/
  scheme : List Char
  /-- The user, and the password after a colon. -/
  userInfo : List Char
  /-- The host; none if there is no authority. -/
  host : Option (List Char)
  /-- The number of the service at the host, unless it is the usual one. -/
  service : Option Nat
  /-- The path. -/
  path : UrlPath
  /-- The text after the question mark. -/
  query : Option (List Char)
  /-- The text after the hash. -/
  fragment : Option (List Char)
deriving DecidableEq, Repr

/-- How a scheme is read. -/
inductive SchemeKind where
  /-- The scheme of files. -/
  | file
  /-- A scheme of the web, which always has a host. -/
  | web
  /-- Any other scheme. -/
  | other
deriving DecidableEq, Repr

/-- The kind of a scheme. -/
def SchemeKind.of (scheme : List Char) : SchemeKind :=
  let name := String.ofList scheme
  if name = "file" then .file
  else if name = "http" ∨ name = "https" ∨ name = "ws" ∨ name = "wss" ∨ name = "ftp" then .web
  else .other

/-- Whether backslashes count as slashes, and the path is never empty. -/
def SchemeKind.isSpecial : SchemeKind → Bool
  | .file => true
  | .web => true
  | .other => false

/-- The number of the usual service of a scheme. -/
def usualService? (scheme : List Char) : Option Nat :=
  let name := String.ofList scheme
  if name = "http" ∨ name = "ws" then some 80
  else if name = "https" ∨ name = "wss" then some 443
  else if name = "ftp" then some 21
  else none

/-- The text of a path. -/
def UrlPath.text : UrlPath → List Char
  | opaqueText text => text
  | segments parts => parts.flatMap ('/' :: ·)

namespace Url

/-- Whether the path has no structure, so that nothing but a fragment can be joined. -/
def isOpaque (u : Url) : Bool :=
  match u.path with
  | .opaqueText _ => true
  | .segments _ => false

/-- The text of the authority, with the slashes before it.  Without an authority, a path
that begins with two slashes is kept apart from one by a dot. -/
def authorityText (u : Url) : List Char :=
  match u.host with
  | some host =>
    let user := if u.userInfo = [] then [] else u.userInfo ++ ['@']
    let service := match u.service with
      | some n => ':' :: Text.decimalDigits n
      | none => []
    '/' :: '/' :: (user ++ host ++ service)
  | none =>
    match u.path with
    | .segments ([] :: _ :: _) => ['/', '.']
    | _ => []

/-- The text of a URL. -/
def text (u : Url) : List Char :=
  let query := match u.query with
    | some q => '?' :: q
    | none => []
  let fragment := match u.fragment with
    | some f => '#' :: f
    | none => []
  u.scheme ++ ':' :: (u.authorityText ++ u.path.text ++ query ++ fragment)

end Url

end ApiContract
