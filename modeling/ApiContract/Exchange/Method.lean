/-
# Methods

The methods that a description may declare operations for.
-/
import ApiContract.Text.Letters

namespace ApiContract

/-- The method of a request. -/
inductive Method where
  | get | put | post | delete | options | head | patch | trace
deriving DecidableEq, Repr

namespace Method

/-- All methods, in the order in which their operations are read. -/
def all : List Method :=
  [get, put, post, delete, options, head, patch, trace]

/-- The name of a method. -/
def name : Method → String
  | get => "GET"
  | put => "PUT"
  | post => "POST"
  | delete => "DELETE"
  | options => "OPTIONS"
  | head => "HEAD"
  | patch => "PATCH"
  | trace => "TRACE"

/-- The key of the operation for a method. -/
def key (m : Method) : String :=
  Text.lowerAscii m.name

/-- The method with a name, in any case. -/
def ofName? (s : String) : Option Method :=
  all.find? fun m => m.name = Text.upper s

end Method

end ApiContract
