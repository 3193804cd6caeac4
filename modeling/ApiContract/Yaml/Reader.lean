/-
# Reading YAML

The value of a document.  Keys may be texts, numbers and truth values, and become texts.
Nodes may be nested 128 deep, and aliases may be followed a hundred times as often as the
document has nodes.
-/
import ApiContract.Yaml.Core
import ApiContract.Yaml.Lexer
import ApiContract.Yaml.Node
import ApiContract.Number.Notation
import ApiContract.Value.Basic

namespace ApiContract.Yaml

/-- Building a value; the state counts the aliases that may still be followed. -/
abbrev Build := StateT Nat Option

/-- The value that a scalar stands for.  Integers beyond 64 bits are refused, and those
beyond 64 bits with a sign become doubles. -/
def Meaning.toValue? : Meaning → Option Value
  | null => some .null
  | bool b => some (.bool b)
  | integer n =>
    if Number.least64 ≤ n ∧ n ≤ Number.greatestUnsigned64 then some (Value.ofInt n) else none
  | number x => some (.number x)
  | string s => some (.string s)

/-- The key that a scalar stands for. -/
def Meaning.toKey? : Meaning → Option String
  | null => none
  | bool b => some (if b then "true" else "false")
  | integer n =>
    if Number.least64 ≤ n ∧ n ≤ Number.greatestUnsigned64 then some (toString n) else none
  | number x => some (Number.nameStyle.text x)
  | string s => some s

namespace Tree

/-- Whether a tag is local. -/
def isLocal (tag : Option String) : Bool :=
  tag.any fun t => t.toList.head? == some '!'

/-- The node that a node stands for: itself, or the node that an alias refers to. -/
def follow (tree : Tree) : Node → Build Node
  | .alias number => do
    match ← get with
    | 0 => failure
    | n + 1 =>
      set n
      match tree.anchors.lookup number with
      | some v => return v
      | none => failure
  | v => return v

/-- The key of a pair. -/
def key (tree : Tree) (k : Node) : Build String := do
  match ← tree.follow k with
  | .scalar tag isPlain text =>
    match (Meaning.ofScalar tag isPlain text).bind Meaning.toKey? with
    | some key => return key
    | none => failure
  | _ => failure

/-- The value of a node; `depth` is the number of collections that may still be opened. -/
def value (tree : Tree) (depth : Nat) (v : Node) : Build Value := do
  match ← tree.follow v with
  | .scalar tag isPlain text =>
    match (Meaning.ofScalar tag isPlain text).bind Meaning.toValue? with
    | some v => return v
    | none => failure
  | .sequence tag items =>
    match isLocal tag, depth with
    | false, depth + 1 =>
      let items ← items.mapM fun item => value tree depth item
      return .array items
    | _, _ => failure
  | .mapping tag pairs =>
    match isLocal tag, depth with
    | false, depth + 1 =>
      let fields ← pairs.mapM fun (k, v) => do
        let key ← tree.key k
        let v ← value tree depth v
        return (key, v)
      return .object (Fields.ofPairs fields)
    | _, _ => failure
  | .alias _ => failure
termination_by depth

end Tree

/-- Reads the one document of a text. -/
def Tree.ofText? (text : String) : Option Tree := do
  Tree.ofTokens? (← Token.scan? text.toList)

/-- Reads a value. -/
def read? (text : String) : Option Value := do
  let tree ← Tree.ofText? text
  match tree.root with
  | none => some .null
  | some v => ((tree.value 128 v).run (100 * tree.size)).map Prod.fst

end ApiContract.Yaml
