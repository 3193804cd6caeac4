/-
# Walks through schemas

A walk looks at a schema and whatever it refers to.  It knows the scopes it is in and the
references it is following, and it ends early if the schema is broken.  Scopes and
references are entered and left together, also on the way out of a broken schema.
-/
import ApiContract.Schema.Memory
import ApiContract.Schema.Violation

namespace ApiContract

/-- The references that are being followed.  They are kept apart by the value they are
followed for, so that one reference may be followed for a value and for a part of it. -/
structure Following where
  /-- The references for the value at hand. -/
  here : List String
  /-- The references for the values around it, innermost first. -/
  around : List (List String)
deriving DecidableEq, Repr

namespace Following

/-- No reference is being followed. -/
def none : Following := ⟨[], []⟩

/-- Begins to follow a reference. -/
def start (url : String) (f : Following) : Following :=
  { f with here := url :: f.here }

/-- Ends to follow the latest reference. -/
def stop (f : Following) : Following :=
  { f with here := f.here.tail }

/-- Turns to a value inside the value at hand. -/
def enter (f : Following) : Following :=
  ⟨[], f.here :: f.around⟩

/-- Turns back to the value around the value at hand. -/
def leave (f : Following) : Following :=
  match f.around with
  | [] => f
  | here :: around => ⟨here, around⟩

end Following

/-- What a walk knows. -/
structure Session where
  /-- The scopes that have been entered. -/
  scopes : Scopes
  /-- The references that are being followed. -/
  active : Following
  /-- What is known from earlier on, and what has happened. -/
  memory : Memory

namespace Session

/-- The beginning of a walk through the documents of a store. -/
def start (store : Store) (memory : Memory) : Session :=
  ⟨store.scopes, .none, memory⟩

/-- The patterns that have been read. -/
def patterns (s : Session) : Patterns :=
  s.memory.patterns

/-- What is known about URLs, if that is kept. -/
def lookups (s : Session) : Option Lookups :=
  s.memory.lookups

/-- A session in which something has happened. -/
def note (n : Note) (s : Session) : Session :=
  { s with memory := s.memory.note n }

/-- A session that knows this about URLs. -/
def keeping (lookups : Lookups) (s : Session) : Session :=
  { s with memory := { s.memory with lookups := some lookups } }

/-- Enters a scope. -/
def enter (uri : String) (s : Session) : Session :=
  match s.lookups with
  | none => { s with scopes := s.scopes.push uri }
  | some lookups =>
    let (url, lookups) := lookups.join s.scopes.current uri
    { s.keeping lookups with scopes := url :: s.scopes }

/-- What a reference leads to, seen from the innermost scope. -/
def resolve (store : Store) (reference : String) (s : Session) :
    Except SchemaError (String × Value) × Session :=
  match s.lookups with
  | none => (store.resolve s.scopes reference, s)
  | some lookups =>
    let (found, lookups) := lookups.resolve store s.scopes.current reference
    (found, s.keeping lookups)

end Session

/-- Errors among which are the errors of schemas. -/
class SchemaFault (ε : Type) where
  /-- The error of a broken schema. -/
  ofSchema : SchemaError → ε
  /-- Broken schemas are told apart. -/
  ofSchema_inj : ∀ {e e' : SchemaError}, ofSchema e = ofSchema e' → e = e'

instance : SchemaFault SchemaError := ⟨id, id⟩

instance : SchemaFault CoercionError := ⟨.schema, CoercionFault.schema.inj⟩

/-- A walk that may end early. -/
abbrev Walk (ε α : Type) := ExceptT ε (StateM Session) α

namespace Walk

variable {ε α : Type}

/-- Takes a note of what happens. -/
def note (n : Note) : Walk ε Unit :=
  modify (Session.note n)

/-- Ends a walk because the schema is broken. -/
def broken [SchemaFault ε] (error : SchemaError) : Walk ε α := do
  note (.raised error)
  throw (SchemaFault.ofSchema error)

/-- A result that a broken schema may prevent. -/
def ofExcept [SchemaFault ε] : Except SchemaError α → Walk ε α
  | .ok a => pure a
  | .error e => broken e

/-- The outcome of a walk, whether it ends early or not. -/
def outcome (walk : Walk ε α) : Walk ε (Except ε α) :=
  ExceptT.mk fun s =>
    let (result, s) := walk.run s
    (.ok result, s)

/-- The innermost scope. -/
def scope : Walk ε String :=
  return (← get).scopes.current

/-- Enters a scope. -/
def enterScope (uri : String) : Walk ε Unit :=
  modify (Session.enter uri)

/-- Leaves the innermost scope. -/
def leaveScope [SchemaFault ε] : Walk ε Unit := do
  let scopes ← ofExcept (← get).scopes.pop
  modify fun s => { s with scopes := scopes }

/-- The result of a walk that has come to its end. -/
def ofResult : Except ε α → Walk ε α
  | .ok a => pure a
  | .error e => throw e

/-- A walk inside a scope. -/
def inScope [SchemaFault ε] (uri : String) (walk : Walk ε α) : Walk ε α := do
  enterScope uri
  let result ← outcome walk
  leaveScope
  ofResult result

/-- A walk with a change of the references being followed before it and one after it. -/
def between (before after : Following → Following) (walk : Walk ε α) : Walk ε α := do
  modify fun s => { s with active := before s.active }
  let result ← outcome walk
  modify fun s => { s with active := after s.active }
  ofResult result

/-- A walk during which a reference is being followed for the value at hand. -/
def following (url : String) (walk : Walk ε α) : Walk ε α :=
  between (Following.start url) Following.stop walk

/-- A walk over a value inside the value at hand: no reference is being followed for it
yet. -/
def onChild (walk : Walk ε α) : Walk ε α :=
  between Following.enter Following.leave walk

/-- Whether a reference is being followed for the value at hand. -/
def isFollowing (url : String) : Walk ε Bool :=
  return (← get).active.here.contains url

/-- What a reference leads to, seen from the innermost scope. -/
def resolve [SchemaFault ε] (store : Store) (reference : String) : Walk ε (String × Value) := do
  let (found, s) := (← get).resolve store reference
  set s
  ofExcept found

/-- A walk of its own from the root of a store, inside another one; only the memory is
shared. -/
def apart (store : Store) (walk : Walk ε α) : Walk ε α :=
  ExceptT.mk fun s =>
    let (result, after) := walk.run (Session.start store s.memory)
    (result, { s with memory := after.memory })

/-- A walk with errors of another kind. -/
def mapError {ε' : Type} (f : ε → ε') (walk : Walk ε α) : Walk ε' α :=
  ExceptT.adapt f walk

/-- The regular expression of a pattern. -/
def pattern [SchemaFault ε] (source : String) : Walk ε Regex := do
  note (.asked source)
  let (regex, patterns) ← ofExcept ((← get).patterns.get source)
  modify fun s => { s with memory := { s.memory with patterns := patterns } }
  return regex

end Walk

end ApiContract
