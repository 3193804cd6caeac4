/-
# Configuration

The choices that a user makes.  They are read from YAML; choices that are not named there
are off, and names that are not known are refused.
-/
import ApiContract.Failure
import ApiContract.Schema.Default
import ApiContract.Yaml.Reader

namespace ApiContract

/-- The choices that a user makes. -/
structure Config where
  /-- Whether missing values take their defaults. -/
  fillByDefault : Bool := false
  /-- Whether responses are checked. -/
  validateResponse : Bool := false
  /-- Whether invalid input is answered with 422. -/
  raise422 : Bool := false
  /-- Which formats are checked. -/
  dialect : Dialect := .oas3
deriving DecidableEq, Repr

namespace Dialect

/-- The dialect with a name. -/
def ofName? (s : String) : Option Dialect :=
  match s with
  | "draft4" => some draft4
  | "draft5" => some draft5
  | "oas3" => some oas3
  | _ => none

end Dialect

namespace Config

/-- A truth value: a word without quotes. -/
def readBool (tree : Yaml.Tree) (v : Yaml.Node) : Yaml.Build Bool := do
  match ← tree.follow v with
  | .scalar _ true text => Yaml.Meaning.bool? text
  | _ => failure

/-- A dialect: its name, or its name as a tag of nothing. -/
def readDialect (tree : Yaml.Tree) (v : Yaml.Node) : Yaml.Build Dialect := do
  match ← tree.follow v with
  | .scalar tag _ text =>
    match tag.map String.toList with
    | some ('!' :: name) =>
      if text = "" then Dialect.ofName? (String.ofList name) else failure
    | _ => Dialect.ofName? text
  | _ => failure

/-- A name: any text. -/
def readName (tree : Yaml.Tree) (v : Yaml.Node) : Yaml.Build String := do
  match ← tree.follow v with
  | .scalar _ _ text => return text
  | _ => failure

/-- The choices of some pairs; no name comes twice. -/
def readPairs (tree : Yaml.Tree) :
    List (Yaml.Node × Yaml.Node) → List String → Config → Yaml.Build Config
  | [], _, config => return config
  | (k, v) :: pairs, seen, config => do
    let name ← readName tree k
    if seen.contains name then failure
    let config ←
      match name with
      | "fill_by_default" => pure { config with fillByDefault := ← readBool tree v }
      | "validate_response" => pure { config with validateResponse := ← readBool tree v }
      | "raise_422" => pure { config with raise422 := ← readBool tree v }
      | "dialect" => pure { config with dialect := ← readDialect tree v }
      | _ => failure
    readPairs tree pairs (name :: seen) config

/-- The choices of a node; nothing at all leaves everything off. -/
def readNode (tree : Yaml.Tree) (v : Yaml.Node) : Yaml.Build Config := do
  match ← tree.follow v with
  | .mapping _ pairs => readPairs tree pairs [] {}
  | .scalar _ true "" => return {}
  | _ => failure

/-- The configuration that a text denotes. -/
def read? (text : String) : Option Config := do
  let tree ← Yaml.Tree.ofText? text
  match tree.root with
  | none => some {}
  | some v => ((readNode tree v).run (100 * tree.size)).map Prod.fst

/-- The configuration that a text denotes, or what is wrong with it. -/
def ofText (text : String) : Except LoadFault Config :=
  match read? text with
  | some config => .ok config
  | none => .error .unreadableConfig

/-- The validator for some documents. -/
def validator (config : Config) (store : Store) : Validator :=
  ⟨store, config.dialect.formats, config.fillByDefault⟩

end Config

end ApiContract
