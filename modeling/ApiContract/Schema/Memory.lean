/-
# Memory

What outlives a walk through schemas.  Three tables save work: the patterns that have been
read, the URLs that have been joined and the values that have been found at URLs.  The last
two may be left out.  Besides, a note is taken of every pattern that is asked for and of
every error of a schema that is raised, so that walks can be told apart by what happened on
them and not only by how they ended.
-/
import ApiContract.Schema.Patterns
import ApiContract.Schema.Scope

namespace ApiContract

/-! ## URLs -/

/-- What is known about references and URLs from earlier on. -/
structure Lookups where
  /-- The URLs by base and reference. -/
  joins : List ((String × String) × String)
  /-- The values by URL. -/
  found : List (String × Value)

namespace Lookups

/-- Nothing is known. -/
def empty : Lookups := ⟨[], []⟩

/-- A reference joined to a base.  Without a base there is nothing to join. -/
def join (lookups : Lookups) (base reference : String) : String × Lookups :=
  if base = "" then (reference, lookups)
  else
    match lookups.joins.lookup (base, reference) with
    | some url => (url, lookups)
    | none =>
      let url := Reference.join base reference
      (url, { lookups with joins := ((base, reference), url) :: lookups.joins })

/-- The value that an absolute URL names.  A URL that names nothing is not kept. -/
def resolveUrl (lookups : Lookups) (store : Store) (url : String) :
    Except SchemaError Value × Lookups :=
  match lookups.found.lookup url with
  | some v => (.ok v, lookups)
  | none =>
    match store.resolveUrl url with
    | .ok v => (.ok v, { lookups with found := (url, v) :: lookups.found })
    | .error e => (.error e, lookups)

/-- The URL that a reference names in a scope, and the value there. -/
def resolve (lookups : Lookups) (store : Store) (scope reference : String) :
    Except SchemaError (String × Value) × Lookups :=
  let (url, lookups) := lookups.join scope reference
  let (found, lookups) := lookups.resolveUrl store url
  (found.map (url, ·), lookups)

end Lookups

/-! ## Notes -/

/-- Something that happens on a walk. -/
inductive Note where
  /-- A pattern is asked for. -/
  | asked (source : String)
  /-- A schema turns out to be broken. -/
  | raised (error : SchemaError)
deriving DecidableEq, Repr

/-! ## All of it -/

/-- What outlives a walk. -/
structure Memory where
  /-- The patterns that have been read. -/
  patterns : Patterns
  /-- What is known about URLs, if that is kept. -/
  lookups : Option Lookups
  /-- What has happened, latest first. -/
  notes : List Note

namespace Memory

/-- Nothing is known, and nothing about URLs is kept. -/
def empty : Memory := ⟨.empty, none, []⟩

/-- Nothing is known yet. -/
def fresh : Memory := ⟨.empty, some .empty, []⟩

/-- Takes a note. -/
def note (n : Note) (memory : Memory) : Memory :=
  { memory with notes := n :: memory.notes }

end Memory

end ApiContract
