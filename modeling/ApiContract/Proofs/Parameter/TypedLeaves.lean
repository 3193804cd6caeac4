/-
# Where texts become numbers and truth values

A conversion goes through a value along a schema.  At every node it looks at the type alone: a node
for objects, and one without a type is for objects, leads on to the fields of an object, and a node
for arrays leads on to the items of an array.  Where the value has not the shape that the type asks
for, it is left as it is with everything in it, so that validation reports it.

So arrays and objects stay where they are, and a text becomes a number or a truth value exactly where
the way along the schema ends at a node for one.
-/
import ApiContract.Proofs.Number.Decimal
import ApiContract.Proofs.Parameter.Conversion
import ApiContract.Proofs.Parameter.Lookup
import ApiContract.Proofs.Parameter.TextList
import ApiContract.Proofs.Value.Path

namespace ApiContract

open Validator (reference?)

namespace Coercion

open Applicator Walk Value

/-! ## Leaves -/

/-- The types of numbers and truth values. -/
def leafTypes : List String := ["integer", "number", "boolean"]

/-- What a text denotes at a leaf of a type. -/
inductive TextDenotes : String → String → Value → Prop
  | integer {text : String} {n : Int64} :
      Number.Denotes text.toList n.toInt → TextDenotes "integer" text (.integer n)
  | number {text : String} {x : Float} :
      Number.readDouble text.toList = .ok x → TextDenotes "number" text (.number x)
  | boolean {text : String} {b : Bool} :
      Text.lowerAscii text = toString b → TextDenotes "boolean" text (.bool b)

section

variable {type text : String} {u : Value}

lemma TextDenotes.mem_leafTypes (h : TextDenotes type text u) : type ∈ leafTypes := by
  cases h <;> decide

lemma TextDenotes.not_isContainer (h : TextDenotes type text u) : ¬ u.isContainer := by
  cases h <;> simp [isContainer]

/-- What a text denotes is of the type. -/
lemma TextDenotes.hasType (h : TextDenotes type text u) : Constraint.hasType u type = .ok true := by
  cases h <;> rfl

lemma textDenotes_of_integer {format : Option String} (h : integer format text = .ok u) :
    TextDenotes "integer" text u := by
  unfold integer at h
  split at h
  · cases h
  · rename_i n hread
    have hdenotes := Number.denotes_of_readInteger (by decide) (by decide) hread
    have hrange : Number.least64 ≤ n ∧ n ≤ Number.greatest64 ∧ u = .integer (Int64.ofInt n) := by
      rw [Number.least64, Number.greatest64]
      by_cases hformat : format = some "int32"
      · simp only [hformat, if_true] at h
        split at h <;> cases h
        refine ⟨?_, ?_, rfl⟩ <;> omega
      · simp only [hformat, if_false, Number.least64, Number.greatest64] at h
        split at h <;> cases h
        refine ⟨?_, ?_, rfl⟩ <;> omega
    obtain ⟨hleast, hgreatest, rfl⟩ := hrange
    have hint : (Int64.ofInt n).toInt = n := Int64.toInt_ofInt_of_le hleast (by
      rw [Number.greatest64] at hgreatest
      omega)
    exact .integer (hint.symm ▸ hdenotes)

lemma textDenotes_of_number (h : number text = .ok u) : TextDenotes "number" text u := by
  unfold number at h
  split at h <;> cases h
  rename_i x hread
  exact .number hread

lemma textDenotes_of_boolean (h : boolean text = .ok u) : TextDenotes "boolean" text u := by
  unfold boolean at h
  split at h <;> cases h
  · rename_i htext
    exact .boolean (b := true) htext
  · rename_i htext
    exact .boolean (b := false) htext

end

/-! ## What a conversion leaves and what it changes -/

/-- A value and what it may become: arrays keep their length, objects keep their keys in order, and
a leaf stays unless it is a text and becomes what it denotes. -/
inductive Becomes : Value → Value → Prop
  | array {items items' : List Value} :
      items.length = items'.length → Becomes (array items) (array items')
  | object {fields fields' : Fields} :
      Fields.keys fields = Fields.keys fields' → Becomes (object fields) (object fields')
  | leaf {v : Value} : ¬ v.isContainer → Becomes v v
  | text {type text : String} {u : Value} : TextDenotes type text u → Becomes (string text) u

lemma Becomes.refl (v : Value) : Becomes v v := by
  cases v with
  | array => exact .array rfl
  | object => exact .object rfl
  | null | bool | integer | number | string | date | dateTime | bytes | ip =>
    exact .leaf (by simp [isContainer])

lemma Becomes.rel_refl (found : Option Value) : Option.Rel Becomes found found := by
  cases found with
  | none => exact .none
  | some v => exact .some (.refl v)

/-! ## Nodes -/

/-- The type along which a node is converted; one that declares none is for objects. -/
def IsOfType (schema : Value) (type : String) : Prop :=
  schema.get? "type" = some (.string type) ∨ schema.get? "type" = none ∧ type = "object"

lemma IsOfType.unique {schema : Value} {type type' : String} (h : IsOfType schema type)
    (h' : IsOfType schema type') : type = type' := by
  rcases h with h | ⟨h, rfl⟩ <;> rcases h' with h' | ⟨h', rfl⟩ <;> simp_all

/-- The type of the values that a step leads into. -/
def stepType : PathStep → String
  | .key _ => "object"
  | .index _ => "array"

/-- A value has the parts that a type is about. -/
def HasParts (type : String) (v : Value) : Prop :=
  type = "object" ∧ v.shape = .object ∨ type = "array" ∧ v.shape = .array

/-- The schema that a part is converted with. -/
def partSchema? (schema : Value) : PathStep → Option Value
  | .key name => schema.object?.bind (subschema? · name)
  | .index _ => (schema.get? "items").filter (·.object?.isSome)

section

variable {convert : Conversion} {scope : String} {here : List String} {schema u v w : Value}
  {type : String} {step : PathStep}

lemma hasParts_iff_of_child? (hu : v.child? step = some u) :
    HasParts type v ↔ type = stepType step := by
  cases step <;> cases v <;> simp_all [child?, HasParts, stepType, shape]

/-- What the conversion along a node makes of a value: its parts are converted, each with the schema
it has, if the node is about them, a text becomes what it denotes if the node is for a leaf, and all
else stays. -/
inductive NodeConverts (R : Option Value → Value → Value → Prop) (schema : Value)
    (type : String) : Value → Value → Prop
  | parts {v w : Value} :
      HasParts type v → Becomes v w →
      (∀ step, Option.Rel (R (partSchema? schema step)) (v.child? step) (w.child? step)) →
      NodeConverts R schema type v w
  | text {text : String} {u : Value} :
      TextDenotes type text u → NodeConverts R schema type (string text) u
  | kept {v : Value} :
      ¬ HasParts type v → (type ∈ leafTypes → ∀ text, v ≠ string text) →
      NodeConverts R schema type v v

lemma NodeConverts.becomes {R : Option Value → Value → Value → Prop}
    (h : NodeConverts R schema type v w) : Becomes v w := by
  cases h with
  | parts _ hframe => exact hframe
  | text hdenotes => exact .text hdenotes
  | kept => exact .refl _

lemma NodeConverts.imp {R R' : Option Value → Value → Value → Prop}
    (h : NodeConverts R schema type v w)
    (himp : ∀ step u x, v.child? step = some u → R (partSchema? schema step) u x →
      R' (partSchema? schema step) u x) : NodeConverts R' schema type v w := by
  cases h with
  | parts hshape hframe hparts =>
    refine .parts hshape hframe fun step => ?_
    have hpart := hparts step
    cases hu : v.child? step <;> cases hx : w.child? step <;> rw [hu, hx] at hpart <;> cases hpart
    · exact .none
    · rename_i hpart
      exact .some (himp step _ _ hu hpart)
  | text hdenotes => exact .text hdenotes
  | kept hshape hleaf => exact .kept hshape hleaf

/-- What a relation says of a part with its schema; without one the part stays. -/
def PartBy (R : Value → Value → Value → Prop) : Option Value → Value → Value → Prop
  | some sub, u, x => R sub u x
  | none, u, x => x = u

lemma FieldsConvert.lookup {sub? : String → Option Value} {fields fields' : Fields}
    (h : FieldsConvert convert scope here sub? fields fields') (name : String) :
    Option.Rel (Converts convert scope here (sub? name)) (fields.lookup name)
      (fields'.lookup name) := by
  induction h with
  | nil => exact .none
  | @cons field field' fields fields' hfield _ ih =>
    obtain ⟨key, v⟩ := field
    obtain ⟨key', w⟩ := field'
    obtain ⟨hkey, hconverts⟩ := hfield
    change key' = key at hkey
    subst hkey
    by_cases hname : name = key'
    · subst hname
      rw [List.lookup_cons_self, List.lookup_cons_self]
      exact .some hconverts
    · rwa [List.lookup_cons, List.lookup_cons, beq_false_of_ne hname]

/-- The fields of an object are converted with the schemas of their names. -/
lemma fields_converts (hsteady : ∀ schema v, (convert schema v).Steady)
    (hschema : schema.hasUniqueKeys) {fields : Fields} (hkeys : (Fields.keys fields).Nodup)
    (h : (Coercion.fields convert schema fields).resultAt scope here = .ok w) :
    ∃ fields', w = object fields' ∧
      FieldsConvert convert scope here (fun name => schema.object?.bind (subschema? · name))
        fields fields' := by
  cases schema with
  | object declared =>
    have hnodup : (declaredNames declared).Nodup := by
      rw [declaredNames_eq, declaredSchemas]
      cases hproperties : declared.lookup Keyword.properties.name with
      | none => exact List.nodup_nil
      | some value =>
        have hvalue := hasUniqueKeys_of_partOf hschema (partOf_of_lookup hproperties)
        cases value with
        | object => exact nodup_of_hasUniqueKeys hvalue
        | null | bool | integer | number | string | array | date | dateTime | bytes | ip =>
          exact List.nodup_nil
    exact fields_ok hsteady hnodup hkeys h
  | null | bool | integer | number | string | array | date | dateTime | bytes | ip =>
    -- Without fields of its own a schema has none for those of the value.
    obtain rfl := Except.ok.inj h
    exact ⟨fields, rfl, List.forall₂_same.2 fun field _ => ⟨rfl, rfl⟩⟩

/-- The items of an array are converted with the schema of items. -/
lemma items_converts (hsteady : ∀ schema v, (convert schema v).Steady) {items : List Value}
    (h : (Coercion.items convert schema items).resultAt scope here = .ok w) :
    ∃ items' item, w = array items' ∧ partSchema? schema (.index 0) = some item ∧
      List.Forall₂ (Converts convert scope here (some item)) items items' := by
  rw [Coercion.items] at h
  split at h
  · rename_i item hitem
    obtain ⟨items', hitems, rfl⟩ := (bind_pure_ok_iff (Steady.mapM fun v _ => hsteady item v)).1 h
    exact ⟨items', item, rfl, hitem, (mapM_ok_iff (hsteady item)).1 hitems⟩
  · cases h

lemma getElem?_rel {R : Value → Value → Prop} {items items' : List Value}
    (h : List.Forall₂ R items items') (i : Nat) : Option.Rel R items[i]? items'[i]? := by
  induction h generalizing i with
  | nil => exact .none
  | cons hv _ ih =>
    cases i with
    | zero => exact .some hv
    | succ i => exact ih i

lemma ofType_converts (hsteady : ∀ schema v, (convert schema v).Steady)
    (hschema : schema.hasUniqueKeys) (hkeys : v.hasUniqueKeys)
    (h : (ofType convert schema type v).resultAt scope here = .ok w) :
    NodeConverts (Converts convert scope here) schema type v w := by
  unfold ofType at h
  split at h
  · obtain rfl := Except.ok.inj h
    exact .kept (by simp [HasParts]) fun hleaf => by simp [leafTypes] at hleaf
  · exact .text (textDenotes_of_boolean ((resultAt_liftExcept _ _).symm.trans h))
  · exact .text (textDenotes_of_integer ((resultAt_liftExcept _ _).symm.trans h))
  · exact .text (textDenotes_of_number ((resultAt_liftExcept _ _).symm.trans h))
  · rename_i fields
    obtain ⟨fields', rfl, hfields⟩ :=
      fields_converts hsteady hschema (nodup_of_hasUniqueKeys hkeys) h
    refine .parts (Or.inl ⟨rfl, rfl⟩) (.object hfields.keys_eq.symm) fun step => ?_
    cases step with
    | key name => exact hfields.lookup name
    | index => exact .none
  · rename_i items
    obtain ⟨items', item, rfl, hitem, hitems⟩ := items_converts hsteady h
    refine .parts (Or.inr ⟨rfl, rfl⟩) (.array hitems.length_eq) fun step => ?_
    cases step with
    | key => exact .none
    | index i =>
      rw [show partSchema? schema (.index i) = some item from hitem]
      exact getElem?_rel hitems i
  -- A value that has not the shape of the type is kept.
  iterate 3
    rename_i hshape
    obtain rfl := Except.ok.inj h
    exact .kept (by simp [HasParts]) fun _ text heq => hshape text heq
  · rename_i hshape
    obtain rfl := Except.ok.inj h
    refine .kept ?_ fun hleaf => by simp [leafTypes] at hleaf
    simpa [HasParts, shape_eq_object_iff] using hshape
  · rename_i hshape
    obtain rfl := Except.ok.inj h
    refine .kept ?_ fun hleaf => by simp [leafTypes] at hleaf
    simpa [HasParts, shape_eq_array_iff] using hshape
  · cases h

end

section

variable {val : Validator} {n : Nat} {scope reference type : String} {here : List String}
  {schema u v w : Value} {step : PathStep} {path : List PathStep}

lemma convert_reference_ok (href : reference? schema = some reference)
    (h : (convert val (n + 1) schema v).resultAt scope here = .ok w) :
    ∃ target, val.store.resolveUrl (Reference.join scope reference) = .ok target ∧
      (convert val n target v).resultAt (Reference.join scope (Reference.join scope reference))
        here = .ok w := by
  rw [convert, href] at h
  have hresolve := resultAt_resolve_inScope (ε := CoercionError) (s := scope) val.store reference
    (f := (convert val n · v)) (convert_steady val n · v) here
  obtain ⟨target, hfound, hconvert⟩ := Except.bind_eq_ok_iff.1 (hresolve.symm.trans h)
  exact ⟨target, Except.mapError_eq_ok_iff.1 hfound, hconvert⟩

/-- What the conversion along a node that is no reference and no union makes of a value. -/
lemma convert_node_ok (href : reference? schema = none) (hunion : unionBranches? schema = none)
    (hschema : schema.hasUniqueKeys) (hkeys : v.hasUniqueKeys)
    (h : (convert val (n + 1) schema v).resultAt scope here = .ok w) :
    ∃ type, IsOfType schema type ∧
      NodeConverts (Converts (convert val n) scope here) schema type v w := by
  rw [convert, href, hunion] at h
  dsimp only at h
  split at h
  · rename_i htype
    exact ⟨_, Or.inr ⟨htype, rfl⟩, ofType_converts (convert_steady val n) hschema hkeys h⟩
  · rename_i type htype
    exact ⟨type, Or.inl htype, ofType_converts (convert_steady val n) hschema hkeys h⟩
  · cases h

/-! ## Whole conversions -/

/-- A conversion comes from a node to the schemas of parts. -/
lemma everywhere_part {store : Store} {kind : String → Value → Prop}
    (h : store.Everywhere .conversion kind scope schema) (href : reference? schema = none)
    (hunion : unionBranches? schema = none) {sub : Value} (hsub : partSchema? schema step = some sub) :
    store.Everywhere .conversion kind scope sub := by
  cases step with
  | key name =>
    obtain ⟨fields, hobject, hsub⟩ := Option.bind_eq_some_iff.1 hsub
    obtain rfl := object?_eq_some_iff.1 hobject
    rcases Option.or_eq_some_iff.1 hsub with hdeclared | ⟨-, hextra⟩
    · obtain ⟨declared, hvalue, hmem⟩ := exists_properties_of_declared hdeclared
      exact h.through href (.part (by simp) hunion hvalue) hvalue (.named (by simp) hmem)
    · obtain ⟨extra, rfl, hvalue⟩ := leftOver?_eq_some_iff.1 hextra
      exact h.through href (.part (by simp) hunion hvalue) hvalue (.whole (by simp))
  | index i =>
    obtain ⟨hvalue, hobject⟩ := Option.filter_eq_some_iff.1 hsub
    obtain ⟨item, hitem⟩ := Option.isSome_iff_exists.1 hobject
    obtain rfl := object?_eq_some_iff.1 hitem
    exact h.through (k := .items) href (.part (by simp) hunion hvalue) hvalue
      (.whole (by simp [array?]))

/-- A node that is no union and in which no key comes twice. -/
structure IsPlainNode (schema : Value) : Prop where
  /-- The schema lists no alternatives. -/
  unionBranches?_eq : unionBranches? schema = none
  /-- Objects have each of their keys once. -/
  hasUniqueKeys : schema.hasUniqueKeys

/-- **Induction along a conversion**, from what references lead to and from parts to a node. -/
lemma convert_induction {motive : String → Value → Value → Value → Prop}
    (jump : ∀ {scope reference schema target v w}, reference? schema = some reference →
      val.store.resolveUrl (Reference.join scope reference) = .ok target →
      motive (Reference.join scope (Reference.join scope reference)) target v w →
      motive scope schema v w)
    (node : ∀ {scope schema type v w}, reference? schema = none → IsOfType schema type →
      NodeConverts (PartBy (motive scope)) schema type v w → motive scope schema v w)
    (hnodes : val.store.Everywhere .conversion (fun _ => IsPlainNode) scope schema)
    (hkeys : v.hasUniqueKeys) (h : (convert val n schema v).resultAt scope here = .ok w) :
    motive scope schema v w := by
  induction n generalizing scope schema v w with
  | zero => cases h
  | succ n ih =>
    cases href : reference? schema with
    | some reference =>
      obtain ⟨target, hfound, hconvert⟩ := convert_reference_ok href h
      exact jump href hfound (ih (hnodes.jump href hfound) hkeys hconvert)
    | none =>
      obtain ⟨hunion, hschema⟩ := hnodes.here
      obtain ⟨type, hof, hconverts⟩ := convert_node_ok href hunion hschema hkeys h
      refine node href hof (hconverts.imp fun step u x hu hpart => ?_)
      cases hsub : partSchema? schema step with
      | none => rwa [hsub] at hpart
      | some sub =>
        rw [hsub] at hpart
        exact ih (everywhere_part hnodes href hunion hsub)
          (hasUniqueKeys_of_partOf hkeys (partOf_of_child? hu)) hpart

/-- **Conversions keep the frame of a value**: at every path stands what may become of what stood
there, and where nothing stood there is nothing. -/
lemma rel_becomes_of_convert
    (hnodes : val.store.Everywhere .conversion (fun _ => IsPlainNode) scope schema)
    (hkeys : v.hasUniqueKeys) (h : (convert val n schema v).resultAt scope here = .ok w) :
    ∀ path, Option.Rel Becomes (v.at? path) (w.at? path) := by
  refine convert_induction (motive := fun _ _ v w =>
    ∀ path, Option.Rel Becomes (v.at? path) (w.at? path)) (fun _ _ ih => ih) ?_ hnodes hkeys h
  intro scope schema type v w href hof hconverts path
  cases path with
  | nil => exact .some hconverts.becomes
  | cons step path =>
    cases hconverts with
    | parts _ _ hparts =>
      have hpart := hparts step
      rw [at?, at?]
      cases hu : v.child? step <;> cases hx : w.child? step <;> rw [hu, hx] at hpart <;>
        cases hpart
      case none.none => exact .none
      case some.some u x hpart =>
        cases hsub : partSchema? schema step with
        | none =>
          rw [hsub] at hpart
          obtain rfl : x = u := hpart
          exact Becomes.rel_refl _
        | some sub =>
          rw [hsub] at hpart
          exact hpart path
    | text hdenotes =>
      rw [at?_cons_of_child?_eq_none (child?_of_leaf rfl step), at?_cons_of_child?_eq_none
        (child?_of_leaf (shape_eq_leaf_iff.2 hdenotes.not_isContainer) step)]
      exact .none
    | kept => exact Becomes.rel_refl _

end

end Coercion

/-! ## The schema that governs what stands at a path -/

open Coercion (IsOfType stepType leftOver? declaredSchemas)

/-- A schema applies another one to a part of a value: the declared one to a field, the one for
additional properties to a field that is left over, and the one for items to an item. -/
inductive AppliesTo (schema : Fields) : PathStep → Value → Prop
  | declared {name : String} {sub : Value} :
      (declaredSchemas schema).lookup name = some sub → AppliesTo schema (.key name) sub
  | extra {name : String} {sub : Value} :
      leftOver? schema = some sub → IsExtra schema name → AppliesTo schema (.key name) sub
  | item {i : Nat} {sub : Fields} :
      schema.lookup Keyword.items.name = some (.object sub) →
      AppliesTo schema (.index i) (.object sub)

/-- A schema in a scope governs what stands at a path with a node: references lead on to their
targets, nodes for objects to the schemas of fields, and nodes for arrays to the schema of items. -/
inductive Store.Governs (store : Store) : String → Value → List PathStep → Value → Prop
  | here {scope : String} {node : Value} :
      reference? node = none → Governs store scope node [] node
  | jump {scope reference : String} {schema : Fields} {target node : Value}
      {path : List PathStep} :
      reference? (.object schema) = some reference →
      store.resolveUrl (Reference.join (scopeInside scope schema) reference) = .ok target →
      Governs store (Reference.join (scopeInside scope schema)
        (Reference.join (scopeInside scope schema) reference)) target path node →
      Governs store scope (.object schema) path node
  | part {scope : String} {schema : Fields} {sub node : Value} {step : PathStep}
      {path : List PathStep} :
      reference? (.object schema) = none → IsOfType (.object schema) (stepType step) →
      AppliesTo schema step sub → Governs store (scopeInside scope schema) sub path node →
      Governs store scope (.object schema) (step :: path) node

/-- What stands at a path is governed by a node for a leaf of a type. -/
def Store.TypedAt (store : Store) (scope : String) (schema : Value) (path : List PathStep)
    (type : String) : Prop :=
  type ∈ Coercion.leafTypes ∧
    ∃ node, store.Governs scope schema path node ∧ node.get? "type" = some (.string type)

/-- The way along a path leads through a place where conversion and validation part: a schema before
its end that opens another scope, which a conversion does not notice, or a field that patterns cover
beside a schema for additional properties, which a conversion takes as left over. -/
inductive Store.Strays (store : Store) : String → Value → List PathStep → Prop
  | scope {scope : String} {schema : Value} {path : List PathStep} :
      ¬ KeepsScope scope schema → reference? schema ≠ none ∨ path ≠ [] →
      Strays store scope schema path
  | covered {scope name : String} {schema : Fields} {sub : Value} {path : List PathStep} :
      Coercion.CoveredBeside schema name sub → Strays store scope (.object schema) (.key name :: path)
  | jump {scope reference : String} {schema target : Value} {path : List PathStep} :
      reference? schema = some reference →
      store.resolveUrl (Reference.join scope reference) = .ok target →
      Strays store (Reference.join scope (Reference.join scope reference)) target path →
      Strays store scope schema path
  | part {scope : String} {schema sub : Value} {step : PathStep} {path : List PathStep} :
      reference? schema = none → Coercion.partSchema? schema step = some sub →
      Strays store scope sub path → Strays store scope schema (step :: path)

/-- A node that conversion takes as validation does: it opens no scope but the one it stands in, and
it has no patterns beside a schema for additional properties. -/
structure IsTakenAsValidated (scope : String) (node : Value) : Prop where
  /-- The node opens no other scope. -/
  keepsScope : KeepsScope scope node
  /-- All fields that are not declared are left over. -/
  noneCovered : ∀ fields, node = .object fields →
    leftOver? fields = none ∨ Applicator.patternSources fields = []

/-- No way strays if all nodes are taken as validation takes them. -/
lemma Store.Everywhere.not_strays {store : Store} {scope : String} {schema : Value}
    (h : store.Everywhere .conversion (fun scope node =>
      Coercion.IsPlainNode node ∧ IsTakenAsValidated scope node) scope schema)
    (path : List PathStep) : ¬ store.Strays scope schema path := by
  intro hstrays
  induction hstrays with
  | scope hopens => exact hopens h.here.2.keepsScope
  | covered hcovered =>
    obtain ⟨hname, hnot, hextra⟩ := hcovered
    rcases h.here.2.noneCovered _ rfl with hnone | hnone
    · simp [hextra] at hnone
    · exact hnot ⟨hname, Or.inl hnone⟩
  | jump href hfound _ ih => exact ih (h.jump href hfound)
  | part href hsub _ ih =>
    exact ih (Coercion.everywhere_part h href h.here.1.unionBranches?_eq hsub)

lemma Store.Strays.keepsScope {store : Store} {scope : String} {schema : Value}
    {path : List PathStep} (h : ¬ store.Strays scope schema path)
    (hend : reference? schema ≠ none ∨ path ≠ []) : KeepsScope scope schema := by
  by_contra hopens
  exact h (.scope hopens hend)

namespace Coercion

open Value

section

variable {store : Store} {scope reference type : String} {schema : Fields} {sub target : Value}
  {step : PathStep} {path : List PathStep}

/-- The schema that a part is converted with is the one that applies to it, unless patterns cover
the part. -/
lemma appliesTo_iff (h : ∀ name sub, step = .key name → ¬ CoveredBeside schema name sub) :
    AppliesTo schema step sub ↔ partSchema? (.object schema) step = some sub := by
  cases step with
  | key name =>
    change _ ↔ subschema? schema name = some sub
    have hnames : name ∉ Applicator.declaredNames schema ↔
        (declaredSchemas schema).lookup name = none := by
      rw [declaredNames_eq, Fields.lookup_eq_none_iff_not_mem]
    rw [subschema?, Option.or_eq_some_iff, ← hnames]
    constructor
    · intro happlies
      cases happlies with
      | declared hdeclared => exact Or.inl hdeclared
      | extra hextra hleft => exact Or.inr ⟨hleft.1, hextra⟩
    · rintro (hdeclared | ⟨hname, hextra⟩)
      · exact .declared hdeclared
      · refine .extra hextra ?_
        by_contra hcovered
        exact h name sub rfl ⟨hname, hcovered, hextra⟩
  | index i =>
    change _ ↔ (schema.lookup "items").filter (·.object?.isSome) = some sub
    rw [Option.filter_eq_some_iff]
    constructor
    · rintro ⟨⟩
      rename_i fields hitems
      exact ⟨hitems, rfl⟩
    · rintro ⟨hitems, hobject⟩
      obtain ⟨item, hitem⟩ := Option.isSome_iff_exists.1 hobject
      obtain rfl := object?_eq_some_iff.1 hitem
      exact .item hitems

/-! ### From a node to the next -/

lemma typedAt_reference_iff (hway : ¬ store.Strays scope (.object schema) path)
    (href : reference? (.object schema) = some reference)
    (hfound : store.resolveUrl (Reference.join scope reference) = .ok target) :
    store.TypedAt scope (.object schema) path type ↔
      store.TypedAt (Reference.join scope (Reference.join scope reference)) target path type := by
  have hscope := (Store.Strays.keepsScope hway (Or.inl (by simp [href]))).scopeInside_eq
  refine and_congr_right fun _ => exists_congr fun node => and_congr_left fun _ => ?_
  constructor
  · intro h
    cases h with
    | here hnone => simp [href] at hnone
    | part hnone => simp [href] at hnone
    | jump href' hfound' hgoverns =>
      obtain rfl := Option.some.inj (href.symm.trans href')
      rw [hscope] at hfound' hgoverns
      obtain rfl := Except.ok.inj (hfound.symm.trans hfound')
      exact hgoverns
  · intro h
    refine .jump href (hscope.symm ▸ hfound) ?_
    rwa [hscope]

lemma typedAt_nil_iff {node : Value} (href : reference? node = none) :
    store.TypedAt scope node [] type ↔
      type ∈ leafTypes ∧ node.get? "type" = some (.string type) := by
  refine and_congr_right fun _ => ⟨?_, fun h => ⟨node, .here href, h⟩⟩
  rintro ⟨_, hgoverns, htype⟩
  cases hgoverns with
  | here => exact htype
  | jump href' => simp [href] at href'

lemma typedAt_cons_iff {node : Value} (hway : ¬ store.Strays scope node (step :: path))
    (href : reference? node = none) :
    store.TypedAt scope node (step :: path) type ↔ IsOfType node (stepType step) ∧
      ∃ sub, partSchema? node step = some sub ∧ store.TypedAt scope sub path type := by
  have hkeeps := Store.Strays.keepsScope hway (Or.inr (by simp))
  have happlies_iff {schema : Fields} (hnode : node = .object schema) (sub : Value) :
      AppliesTo schema step sub ↔ partSchema? (.object schema) step = some sub := by
    subst hnode
    refine appliesTo_iff fun name sub hstep hcovered => ?_
    subst hstep
    exact hway (.covered hcovered)
  constructor
  · rintro ⟨hleaf, inner, hgoverns, htype⟩
    cases hgoverns with
    | jump href' => simp [href] at href'
    | part _ hof happlies hgoverns =>
      rw [hkeeps.scopeInside_eq] at hgoverns
      have hsub := (happlies_iff rfl _).1 happlies
      exact ⟨hof, _, hsub, hleaf, inner, hgoverns, htype⟩
  · rintro ⟨hof, sub, hsub, hleaf, inner, hgoverns, htype⟩
    cases node with
    | object schema =>
      have happlies := (happlies_iff rfl sub).2 hsub
      rw [← hkeeps.scopeInside_eq] at hgoverns
      exact ⟨hleaf, inner, .part href hof happlies hgoverns, htype⟩
    | null | bool | integer | number | string | array | date | dateTime | bytes | ip =>
      cases step <;> cases hsub

/-! ### Texts -/

/-- What is found of a text if the place is for leaves of some type, if of any: what it denotes, and
the text itself where the place is for none. -/
structure TextBecomes (typed : String → Prop) (text : String) (found : Option Value) : Prop where
  /-- The text has become what it denotes. -/
  denoted : ∀ type, typed type → ∃ u, found = some u ∧ TextDenotes type text u
  /-- The text is still there. -/
  kept : (∀ type, ¬ typed type) → found = some (.string text)

lemma TextBecomes.of_untyped {typed : String → Prop} {text : String}
    (h : ∀ type, ¬ typed type) : TextBecomes typed text (some (.string text)) :=
  ⟨fun type htype => absurd htype (h type), fun _ => rfl⟩

lemma TextBecomes.congr {typed typed' : String → Prop} {text : String} {found : Option Value}
    (h : TextBecomes typed text found) (htyped : ∀ type, typed' type ↔ typed type) :
    TextBecomes typed' text found :=
  ⟨fun type htype => h.denoted type ((htyped type).1 htype),
    fun hnone => h.kept fun type htype => hnone type ((htyped type).2 htype)⟩

section

variable {node u v : Value} {text : String} {found : Option Value}

/-- A text at a node for a leaf becomes what it denotes. -/
lemma TextBecomes.of_denotes (href : reference? node = none) (hof : IsOfType node type)
    (hdenotes : TextDenotes type text u) :
    TextBecomes (store.TypedAt scope node []) text (some u) := by
  have htyped : node.get? "type" = some (.string type) := by
    rcases hof with htype | ⟨-, rfl⟩
    · exact htype
    · exact absurd hdenotes.mem_leafTypes (by decide)
  refine ⟨fun type' htype' => ⟨u, rfl, ?_⟩, fun hnone => ?_⟩
  · obtain ⟨-, htype'⟩ := (typedAt_nil_iff href).1 htype'
    obtain rfl := Value.string.inj (Option.some.inj (htyped.symm.trans htype'))
    exact hdenotes
  · exact absurd ((typedAt_nil_iff href).2 ⟨hdenotes.mem_leafTypes, htyped⟩) (hnone type)

/-- No text is typed in a value that has not the shape of the type. -/
lemma TextBecomes.of_kept (hway : ¬ store.Strays scope node path) (href : reference? node = none)
    (hof : IsOfType node type) (hshape : ¬ HasParts type v)
    (hleaf : type ∈ leafTypes → ∀ text, v ≠ string text)
    (htext : v.at? path = some (.string text)) :
    TextBecomes (store.TypedAt scope node path) text (v.at? path) := by
  rw [htext]
  refine .of_untyped fun type' htyped => ?_
  cases path with
  | nil =>
    obtain ⟨hmem, htype⟩ := (typedAt_nil_iff href).1 htyped
    obtain rfl := hof.unique (Or.inl htype)
    exact hleaf hmem text (Option.some.inj htext)
  | cons step path =>
    obtain ⟨u, hu, -⟩ := exists_child?_of_at? htext
    obtain ⟨hof', -⟩ := (typedAt_cons_iff hway href).1 htyped
    exact hshape ((hasParts_iff_of_child? hu).2 (hof.unique hof'))

/-- A text in a part becomes what the schema of the part makes of it, and stays without one. -/
lemma TextBecomes.of_part (hway : ¬ store.Strays scope node (step :: path))
    (href : reference? node = none) (hof : IsOfType node (stepType step))
    (hsome : ∀ sub, partSchema? node step = some sub →
      TextBecomes (store.TypedAt scope sub path) text found)
    (hnone : partSchema? node step = none → found = some (.string text)) :
    TextBecomes (store.TypedAt scope node (step :: path)) text found := by
  cases hsub : partSchema? node step with
  | none =>
    rw [hnone hsub]
    refine .of_untyped fun type htyped => ?_
    obtain ⟨-, sub, hsub', -⟩ := (typedAt_cons_iff hway href).1 htyped
    simp [hsub] at hsub'
  | some sub =>
    refine (hsome sub hsub).congr fun type => ?_
    rw [typedAt_cons_iff hway href]
    simp [hof, hsub]

end

/-- **Texts become what they denote just where a node for a leaf governs them.** -/
lemma textBecomes_of_convert {val : Validator} {n : Nat} {here : List String} {schema v w : Value}
    (hnodes : val.store.Everywhere .conversion (fun _ => IsPlainNode) scope schema)
    (hkeys : v.hasUniqueKeys) (h : (convert val n schema v).resultAt scope here = .ok w) :
    ∀ path text, ¬ val.store.Strays scope schema path → v.at? path = some (.string text) →
      TextBecomes (val.store.TypedAt scope schema path) text (w.at? path) := by
  refine convert_induction (motive := fun scope schema v w => ∀ path text,
    ¬ val.store.Strays scope schema path → v.at? path = some (.string text) →
    TextBecomes (val.store.TypedAt scope schema path) text (w.at? path)) ?_ ?_ hnodes hkeys h
  · intro scope reference schema target v w href hfound ih path text hway htext
    obtain ⟨fields, rfl, -⟩ := exists_fields_of_reference? href
    exact (ih path text (fun hstrays => hway (.jump href hfound hstrays)) htext).congr
      fun type => typedAt_reference_iff hway href hfound
  · intro scope schema type v w href hof hconverts path text hway htext
    cases hconverts with
    | parts hshape _ hparts =>
      cases path with
      | nil =>
        obtain rfl := Option.some.inj htext
        simp [HasParts, shape] at hshape
      | cons step path =>
        obtain ⟨u, hu, htext⟩ := exists_child?_of_at? htext
        have hpart := hparts step
        rw [hu] at hpart
        generalize hx : w.child? step = found at hpart
        cases hpart with
        | @some _ x hpart =>
          rw [at?_cons_of_child? hx]
          obtain rfl := (hasParts_iff_of_child? hu).1 hshape
          refine .of_part hway href hof (fun sub hsub => ?_) fun hsub => ?_ <;> rw [hsub] at hpart
          · exact hpart path text (fun hstrays => hway (.part href hsub hstrays)) htext
          · obtain rfl : x = u := hpart
            exact htext
    | text hdenotes =>
      cases path with
      | nil =>
        obtain rfl := Value.string.inj (Option.some.inj htext)
        exact .of_denotes href hof hdenotes
      | cons step path =>
        rw [at?_cons_of_child?_eq_none (child?_of_leaf rfl step)] at htext
        cases htext
    | kept hshape hleaf => exact .of_kept hway href hof hshape hleaf htext

end

/-! ## Conversions of whole values -/

/-- **Conversion reaches every typed leaf and nothing else.**  Along a schema without unions, arrays
keep their length and objects keep their keys at every path, and a leaf stays unless it is a text
that becomes what it denotes.  Where conversion and validation do not part on the way, a text becomes
what it denotes if a node for an integer, a number or a truth value governs it, so that validation
finds a value of the type there, and otherwise it stays. -/
theorem coerced_typed_leaves {val : Validator} {schema v w : Value}
    (hnodes : val.store.Everywhere .conversion (fun _ => IsPlainNode) val.store.baseUri schema)
    (hkeys : v.hasUniqueKeys) (h : val.run (val.coerced schema v) = .ok w) :
    (∀ path, Option.Rel Becomes (v.at? path) (w.at? path)) ∧
    ∀ path text, v.at? path = some (.string text) →
      ¬ val.store.Strays val.store.baseUri schema path →
      (∀ type, val.store.TypedAt val.store.baseUri schema path type →
        ∃ u, w.at? path = some u ∧ TextDenotes type text u ∧
          Constraint.hasType u type = .ok true) ∧
      ((∀ type, ¬ val.store.TypedAt val.store.baseUri schema path type) →
        w.at? path = some (.string text)) := by
  rw [Walk.run_eq_resultAt] at h
  refine ⟨rel_becomes_of_convert hnodes hkeys h, fun path text htext hway => ?_⟩
  obtain ⟨htyped, hkept⟩ := textBecomes_of_convert hnodes hkeys h path text hway htext
  refine ⟨fun type htype => ?_, hkept⟩
  obtain ⟨u, hu, hdenotes⟩ := htyped type htype
  exact ⟨u, hu, hdenotes, hdenotes.hasType⟩

namespace Stay

/-- A document with a schema for counts. -/
def document : Value := .object [
  ("definitions", .object [("count", .object [("type", .string "integer")])])]

/-- A schema for stays, which refers to the one for counts. -/
def schema : Value := .object [
  ("type", .string "object"),
  ("properties", .object [
    ("nights", .object [("$ref", .string "#/definitions/count")]),
    ("paid", .object [
      ("type", .string "array"), ("items", .object [("type", .string "boolean")])])])]

/-- A validator over the document. -/
def validator : Validator := ⟨.ofRoot "" document, .empty, false⟩

/-- A stay as it is sent, with a field that is not declared. -/
def sent : Value := .object [
  ("paid", .array [.string "TRUE", .string "false"]),
  ("nights", .string "007"),
  ("note", .string "5")]

/-- The stay with its nights and payments read. -/
def received : Value := .object [
  ("paid", .array [.bool true, .bool false]),
  ("nights", .integer 7),
  ("note", .string "5")]

lemma isTakenAsValidated {scope : String} {fields : Fields} (hid : fields.lookup "id" = none)
    (hextra : leftOver? fields = none) : IsTakenAsValidated scope (.object fields) where
  keepsScope := by
    intro uri huri
    change (fields.lookup "id").bind Value.string? = some uri at huri
    simp [hid] at huri
  noneCovered := by
    rintro _ ⟨⟩
    exact Or.inl hextra

lemma everywhere_leaf {scope type : String} :
    validator.store.Everywhere .conversion
      (fun scope node => IsPlainNode node ∧ IsTakenAsValidated scope node) scope
      (.object [("type", .string type)]) := by
  refine .of_parts ⟨⟨rfl, rfl⟩, isTakenAsValidated rfl rfl⟩ rfl
    fun k value steps s hpasses hvalue _ => ?_
  cases hpasses with
  | member _ _ hbranches => cases hbranches
  | part hk => rcases hk with rfl | rfl | rfl <;> cases hvalue

lemma everywhere_schema :
    validator.store.Everywhere .conversion
      (fun scope node => IsPlainNode node ∧ IsTakenAsValidated scope node)
      validator.store.baseUri schema := by
  refine .of_parts ⟨⟨rfl, rfl⟩, isTakenAsValidated rfl rfl⟩ rfl
    fun k value steps s hpasses hvalue happlies => ?_
  cases hpasses with
  | member _ _ hbranches => cases hbranches
  | part hk =>
    rcases hk with rfl | rfl | rfl
    · obtain rfl := Option.some.inj hvalue
      cases happlies with
      | whole hk => simp at hk
      | named _ hmem =>
        simp only [List.mem_cons, Prod.mk.injEq, List.not_mem_nil, or_false] at hmem
        rcases hmem with ⟨-, rfl⟩ | ⟨-, rfl⟩
        · exact .of_target ⟨⟨rfl, rfl⟩, isTakenAsValidated rfl rfl⟩ rfl rfl everywhere_leaf
        · refine .of_parts ⟨⟨rfl, rfl⟩, isTakenAsValidated rfl rfl⟩ rfl
            fun k value steps s hpasses hvalue happlies => ?_
          cases hpasses with
          | member _ _ hbranches => cases hbranches
          | part hk =>
            rcases hk with rfl | rfl | rfl
            · cases hvalue
            · cases hvalue
            · obtain rfl := Option.some.inj hvalue
              cases happlies with
              | whole => exact everywhere_leaf
              | named hk => simp at hk
    · cases hvalue
    · cases hvalue

end Stay

open Stay in
/-- The nights are read through a reference, and the field that is not declared stays a text. -/
theorem stay_is_converted :
    validator.run (validator.coerced schema sent) = .ok received ∧
    (∃ u, received.at? [.key "nights"] = some u ∧ TextDenotes "integer" "007" u ∧
      Constraint.hasType u "integer" = .ok true) ∧
    received.at? [.key "note"] = some (.string "5") := by
  have hconverted : validator.run (validator.coerced schema sent) = .ok received := rfl
  have hway := everywhere_schema.not_strays
  obtain ⟨-, htexts⟩ := coerced_typed_leaves (fun _ _ _ h => (everywhere_schema _ _ _ h).1) rfl
    hconverted
  refine ⟨hconverted, ?_, ?_⟩
  · refine (htexts [.key "nights"] "007" rfl (hway _)).1 "integer"
      ⟨by decide, .object [("type", .string "integer")], ?_, rfl⟩
    exact .part rfl (Or.inl rfl) (.declared rfl) (.jump rfl rfl (.here rfl))
  · refine (htexts [.key "note"] "5" rfl (hway _)).2 fun type htype => ?_
    obtain ⟨-, sub, hsub, -⟩ := (typedAt_cons_iff (hway _) rfl).1 htype
    cases hsub

/-- **The texts in a list stay if the schema of the list declares no type.**  Its items are
validated against the schema for items, so that the text is reported where an integer is asked
for. -/
theorem text_in_untyped_list_stays :
    let item : Fields := [("type", .string "integer")]
    let schema : Fields := [("items", .object item)]
    let val : Validator := ⟨.ofRoot "" (.object schema), .empty, false⟩
    unionBranches? (.object schema) = none ∧ AppliesTo schema (.index 0) (.object item) ∧
    val.run (val.coerced (.object schema) (.array [.string "1"])) = .ok (.array [.string "1"]) ∧
    ∃ violation, val.violationsOf (.array [.string "1"]) (.object schema) = .ok [violation] ∧
      violation.path = [.index 0] :=
  ⟨rfl, .item rfl, rfl, _, rfl, rfl⟩

end Coercion

end ApiContract
