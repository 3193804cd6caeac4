/-
# Where lookups read references

Beside validation, schemas are searched for defaults, for the formats that type them and for the
types of parameters, and values are converted along them.  Each of these lookups goes its own way
through schemas and keeps track of the scopes by itself.  A reference leads it to another scope,
but it does not notice a schema that opens one.

So a lookup reads a reference as validation does as long as no schema on the way opens another
scope.  Below such a schema a relative reference may lead a lookup to one place and validation to
another.
-/
import ApiContract.Proofs.Parameter.Steady
import ApiContract.Proofs.Schema.Defaults
import ApiContract.Proofs.Schema.Location
import ApiContract.Proofs.Schema.Reach
import ApiContract.Proofs.Schema.ReadAlike
import ApiContract.Proofs.Value.Refinement

namespace ApiContract

open Validator (reference? findDefault declaredFormat tooDeep)
open Coercion (typeOf)

/-- The schemas that a keyword applies are inside its value. -/
lemma Keyword.Applies.contains {k : Keyword} {value s : Value} {steps : List PathStep}
    (h : k.Applies value steps s) : value.Contains s := by
  cases h with
  | named _ hmem => exact (Value.PartOf.field hmem).contains
  | whole _ => exact .refl _
  | listed _ hs => exact (Value.partOf_of_getElem? hs).contains

/-! ## Lookups and the schemas they come to -/

/-- A way through schemas beside validation. -/
inductive Lookup where
  /-- The search for a default. -/
  | default
  /-- The search for the format that types a default. -/
  | format
  /-- The search for the type of a parameter. -/
  | type
  /-- The conversion of a value. -/
  | conversion

/-- The keywords of a schema that a lookup goes through: branches where a default may be, members
of unions, and the schemas of parts. -/
inductive Lookup.Passes : Lookup → Value → Keyword → Prop
  | branch {schema : Value} :
      schema.get? "default" = none → Passes .default schema .allOf
  | member {l : Lookup} {schema : Value} {k : Keyword} {branches : List Value} :
      l = .type ∨ l = .conversion → k = .oneOf ∨ k = .anyOf →
      unionBranches? schema = some branches → schema.get? k.name = some (.array branches) →
      Passes l schema k
  | part {schema : Value} {k : Keyword} {fields : Fields} :
      k = .properties ∨ k = .additionalProperties ∨ k = .items →
      unionBranches? schema = none → schema.get? k.name = some (.object fields) →
      Passes .conversion schema k

/-- A lookup comes from a schema in a scope to another one, by a path and along schemas of some
kind: through keywords in the scope it is in, and through references to the scopes they lead to. -/
inductive Store.Comes (store : Store) (l : Lookup) (along : String → Value → Prop) :
    String → Value → List PathStep → String → Value → Prop
  /-- To the schema itself. -/
  | here {scope : String} {schema : Value} :
      along scope schema → Comes store l along scope schema [] scope schema
  /-- Through a keyword. -/
  | through {scope scope' : String} {schema value s node : Value} {k : Keyword}
      {steps path : List PathStep} :
      along scope schema → reference? schema = none → l.Passes schema k →
      schema.get? k.name = some value → k.Applies value steps s →
      Comes store l along scope s path scope' node →
      Comes store l along scope schema (.key k.name :: (steps ++ path)) scope' node
  /-- Through a reference. -/
  | jump {scope scope' reference : String} {schema target node : Value} {path : List PathStep} :
      along scope schema → reference? schema = some reference →
      store.resolveUrl (Reference.join scope reference) = .ok target →
      Comes store l along (Reference.join scope (Reference.join scope reference)) target path
        scope' node →
      Comes store l along scope schema (.key Keyword.ref.name :: path) scope' node

/-- All schemas that a lookup comes to are of some kind. -/
def Store.Everywhere (store : Store) (l : Lookup) (kind : String → Value → Prop) (scope : String)
    (schema : Value) : Prop :=
  ∀ path scope' node, store.Comes l (fun _ _ => True) scope schema path scope' node →
    kind scope' node

namespace Store.Everywhere

variable {store : Store} {l : Lookup} {kind : String → Value → Prop} {scope : String}
  {schema : Value}

lemma here (h : store.Everywhere l kind scope schema) : kind scope schema :=
  h _ _ _ (.here trivial)

lemma through (h : store.Everywhere l kind scope schema) (href : reference? schema = none)
    {k : Keyword} {value s : Value} {steps : List PathStep} (hpasses : l.Passes schema k)
    (hvalue : schema.get? k.name = some value) (happlies : k.Applies value steps s) :
    store.Everywhere l kind scope s :=
  fun _ _ _ hcomes => h _ _ _ (.through trivial href hpasses hvalue happlies hcomes)

lemma jump (h : store.Everywhere l kind scope schema) {reference : String} {target : Value}
    (href : reference? schema = some reference)
    (hfound : store.resolveUrl (Reference.join scope reference) = .ok target) :
    store.Everywhere l kind (Reference.join scope (Reference.join scope reference)) target :=
  fun _ _ _ hcomes => h _ _ _ (.jump trivial href hfound hcomes)

lemma of_target {reference : String} {target : Value} (hkind : kind scope schema)
    (href : reference? schema = some reference)
    (hfound : store.resolveUrl (Reference.join scope reference) = .ok target)
    (h : store.Everywhere l kind (Reference.join scope (Reference.join scope reference)) target) :
    store.Everywhere l kind scope schema := by
  intro path scope' node hcomes
  cases hcomes with
  | here => exact hkind
  | through _ hnone => simp [href] at hnone
  | jump _ href' hfound' hcomes =>
    obtain rfl := Option.some.inj (href.symm.trans href')
    obtain rfl := Except.ok.inj (hfound.symm.trans hfound')
    exact h _ _ _ hcomes

lemma of_parts (hkind : kind scope schema) (href : reference? schema = none)
    (h : ∀ (k : Keyword) value steps s, l.Passes schema k → schema.get? k.name = some value →
      k.Applies value steps s → store.Everywhere l kind scope s) :
    store.Everywhere l kind scope schema := by
  intro path scope' node hcomes
  cases hcomes with
  | here => exact hkind
  | through _ _ hpasses hvalue happlies hcomes =>
    exact h _ _ _ _ hpasses hvalue happlies _ _ _ hcomes
  | jump _ href' => simp [href] at href'

end Store.Everywhere

/-! ## What a lookup depends on -/

/-- Two stores lead a reference of a schema to the same, if it has one. -/
def Store.LeadsAlike (store store' : Store) (scope : String) (schema : Value) : Prop :=
  ∀ reference, reference? schema = some reference →
    store.resolveUrl (Reference.join scope reference) =
      store'.resolveUrl (Reference.join scope reference)

namespace Validator

open Walk

variable {P : SchemaError → Prop} {store store' : Store} {scope : String}

lemma findDefault_upTo (n : Nat) {schema : Value}
    (h : store.Everywhere .default (store.LeadsAlike store') scope schema) :
    (findDefault store n schema).UpTo P scope scope (findDefault store' n schema) := by
  induction n generalizing scope schema with
  | zero => exact .refl .tooDeep
  | succ n ih =>
    rw [findDefault, findDefault]
    split
    · rename_i reference href
      exact .resolve (findDefault_steady store n) (findDefault_steady store' n) rfl
        (h.here reference href) fun target hfound => ih (h.jump href hfound)
    · rename_i href
      split
      · exact .pure _
      · rename_i hdefault
        split
        · rename_i branches hbranches
          obtain ⟨value, hvalue, hitems⟩ := Option.bind_eq_some_iff.1 hbranches
          obtain rfl := Value.array?_eq_some_iff.1 hitems
          refine (UpTo.mapM fun branch hbranch => ?_).bind fun found => ?_
          · obtain ⟨i, hi⟩ := List.mem_iff_getElem?.1 hbranch
            exact ih (h.through href (.branch hdefault) hvalue (.listed (by simp) hi))
          · split <;> exact .pure _
        · exact .pure _

lemma declaredFormat_upTo (n : Nat) {schema : Value}
    (h : store.Everywhere .format (store.LeadsAlike store') scope schema) :
    (declaredFormat store n schema).UpTo P scope scope (declaredFormat store' n schema) := by
  induction n generalizing scope schema with
  | zero => exact .refl .tooDeep
  | succ n ih =>
    rw [declaredFormat, declaredFormat]
    split
    · rename_i reference href
      exact .resolve (declaredFormat_steady store n) (declaredFormat_steady store' n) rfl
        (h.here reference href) fun target hfound => ih (h.jump href hfound)
    · exact .pure _

end Validator

namespace Coercion

open Walk

variable {P : SchemaError → Prop} {store store' : Store} {scope : String}

/-- The members of a union stand under one of the two keywords for alternatives. -/
lemma unionBranches?_eq_some {schema : Value} {branches : List Value}
    (h : unionBranches? schema = some branches) :
    ∃ k : Keyword, (k = .oneOf ∨ k = .anyOf) ∧ schema.get? k.name = some (.array branches) := by
  rw [unionBranches?] at h
  split at h
  · simp at h
  · obtain ⟨value, hvalue, hitems⟩ := Option.bind_eq_some_iff.1 h
    obtain rfl := Value.array?_eq_some_iff.1 hitems
    rcases Option.or_eq_some_iff.1 hvalue with hone | ⟨-, hany⟩
    · exact ⟨.oneOf, by simp, hone⟩
    · exact ⟨.anyOf, by simp, hany⟩

lemma contains_of_unionBranches? {schema branch : Value} {branches : List Value}
    (h : unionBranches? schema = some branches) (hmem : branch ∈ branches) :
    schema.Contains branch := by
  obtain ⟨k, -, hvalue⟩ := unionBranches?_eq_some h
  exact (Value.contains_of_get? hvalue).trans (Value.PartOf.item hmem).contains

/-- A lookup that goes through unions comes to all members of a union. -/
lemma everywhere_member {l : Lookup} {kind : String → Value → Prop} {schema branch : Value}
    {branches : List Value} (h : store.Everywhere l kind scope schema)
    (hl : l = .type ∨ l = .conversion) (href : reference? schema = none)
    (hbranches : unionBranches? schema = some branches) (hmem : branch ∈ branches) :
    store.Everywhere l kind scope branch := by
  obtain ⟨k, hk, hvalue⟩ := unionBranches?_eq_some hbranches
  obtain ⟨i, hi⟩ := List.mem_iff_getElem?.1 hmem
  exact h.through href (.member hl hk hbranches hvalue) hvalue (.listed (by tauto) hi)

lemma expectPrimitive_upTo {typeOf typeOf' : Value → Walk SchemaError String}
    {branches : List Value}
    (h : ∀ branch ∈ branches, (typeOf branch).UpTo P scope scope (typeOf' branch)) :
    (expectPrimitive typeOf branches).UpTo P scope scope (expectPrimitive typeOf' branches) := by
  induction branches with
  | nil => exact .pure _
  | cons branch branches ih =>
    rw [expectPrimitive, expectPrimitive]
    refine (h branch (by simp)).bind fun type => ?_
    split
    · exact ih fun branch hmem => h branch (by simp [hmem])
    · exact .broken (by simp)

lemma typeOf_upTo (n : Nat) {schema : Value}
    (h : store.Everywhere .type (store.LeadsAlike store') scope schema) :
    (typeOf store n schema).UpTo P scope scope (typeOf store' n schema) := by
  induction n generalizing scope schema with
  | zero => exact .refl .tooDeep
  | succ n ih =>
    rw [typeOf, typeOf]
    split
    · rename_i reference href
      exact .resolve (typeOf_steady store n) (typeOf_steady store' n) rfl
        (h.here reference href) fun target hfound => ih (h.jump href hfound)
    · rename_i href
      split
      · exact .pure _
      · exact .broken (by simp [manyTypes])
      · split
        · rename_i branches hbranches
          refine (expectPrimitive_upTo fun branch hmem => ?_).bind fun _ => .pure _
          exact ih (everywhere_member h (by simp) href hbranches hmem)
        · exact .pure _

/-! ### Conversions -/

section

variable {convert convert' : Conversion} {s t : String}

lemma declaredFields_upTo {declared : Fields}
    (h : ∀ field ∈ declared, ∀ v, (convert field.2 v).UpTo P s t (convert' field.2 v))
    (fs : Fields) :
    (declaredFields convert declared fs).UpTo P s t (declaredFields convert' declared fs) := by
  induction declared generalizing fs with
  | nil => exact .pure _
  | cons field declared ih =>
    have hrest := ih fun field hmem => h field (by simp [hmem])
    rw [declaredFields, declaredFields]
    split
    · exact (h field (by simp) _).bind fun _ => hrest _
    · exact hrest _

/-- Two conversions of the parts that a schema has schemas for. -/
def PartsUpTo (P : SchemaError → Prop) (s t : String) (convert convert' : Conversion)
    (schema : Value) : Prop :=
  ∀ (k : Keyword) value steps sub, k = .properties ∨ k = .additionalProperties ∨ k = .items →
    schema.get? k.name = some value → value.object?.isSome → k.Applies value steps sub →
    ∀ v, (convert sub v).UpTo P s t (convert' sub v)

lemma fields_upTo {schema : Value} (h : PartsUpTo P s t convert convert' schema) (fs : Fields) :
    (fields convert schema fs).UpTo P s t (fields convert' schema fs) := by
  have hdeclared : ∀ field ∈ ((schema.get? "properties").bind Value.object?).getD [], ∀ v,
      (convert field.2 v).UpTo P s t (convert' field.2 v) := by
    rintro ⟨name, sub⟩ hmem v
    rcases hproperties : (schema.get? "properties").bind Value.object? with _ | declared
    · simp [hproperties] at hmem
    · obtain ⟨value, hvalue, hobject⟩ := Option.bind_eq_some_iff.1 hproperties
      rw [hproperties] at hmem
      obtain rfl := Value.object?_eq_some_iff.1 hobject
      exact h .properties _ _ sub (by simp) hvalue rfl (.named (by simp) hmem) v
  rw [fields, fields]
  refine (declaredFields_upTo hdeclared fs).bind fun fs' => ?_
  split
  · exact .pure _
  · rename_i extra hextra
    obtain ⟨hvalue, hobject⟩ := Option.filter_eq_some_iff.1 hextra
    refine (UpTo.mapM fun field _ => ?_).bind fun _ => .pure _
    dsimp only
    split
    · exact .pure _
    · have hconvert := h .additionalProperties extra [] extra (by simp) hvalue hobject
        (.whole (by simp)) field.2
      exact hconvert.bind fun _ => .pure _

lemma items_upTo {schema : Value} (h : PartsUpTo P s t convert convert' schema)
    (vs : List Value) :
    (items convert schema vs).UpTo P s t (items convert' schema vs) := by
  rw [items, items]
  split
  · rename_i item hitem
    obtain ⟨hvalue, hobject⟩ := Option.filter_eq_some_iff.1 hitem
    have hitems : item.array? = none := by
      cases item <;> simp_all [Value.object?, Value.array?]
    refine (UpTo.mapM fun v _ => ?_).bind fun _ => .pure _
    exact h .items item [] item (by simp) hvalue hobject (.whole (by simp [hitems])) v
  · exact .broken (by simp)

lemma resultAt_liftExcept (r : Except CoercionError Value) (here : List String) :
    (ofType.liftExcept r).resultAt scope here = r := by
  cases r <;> rfl

lemma liftExcept_upTo {r : Except CoercionError Value} (h : IsOwn r) :
    (ofType.liftExcept r).UpTo P s t (ofType.liftExcept r) :=
  .const (liftExcept_steady h) fun _ => resultAt_liftExcept r

lemma ofType_upTo {schema : Value} (h : PartsUpTo P s t convert convert' schema)
    (type : String) (v : Value) :
    (ofType convert schema type v).UpTo P s t (ofType convert' schema type v) := by
  unfold ofType
  split
  · exact .pure _
  · exact liftExcept_upTo (boolean_isOwn _)
  · exact liftExcept_upTo (integer_isOwn _ _)
  · exact liftExcept_upTo (number_isOwn _)
  · exact fields_upTo h _
  · exact items_upTo h _
  all_goals first | exact .pure _ | exact .broken (by simp)

end

/-! ### Unions -/

section

variable {s t : String}

/-- What a union makes of a candidate does not depend on where the conversion is: it is judged
from the root document. -/
lemma resultAt_judge (val : Validator) (candidate branch : Value) (here : List String) :
    (Walk.apart val.store (Walk.mapError CoercionFault.schema
      (val.violations candidate branch)) : Walk CoercionError _).resultAt scope here =
      (val.violationsOf candidate branch).mapError CoercionFault.schema := rfl

lemma judge_steady (val : Validator) (candidate branch : Value) :
    (Walk.apart val.store (Walk.mapError CoercionFault.schema
      (val.violations candidate branch)) : Walk CoercionError _).Steady :=
  ((val.violations_steady candidate branch).mapError fun _ he =>
    CoercionFault.schema.inj he).apart val.store

/-- Two validators judge the candidates of a union alike. -/
def JudgesUpTo (P : SchemaError → Prop) (val val' : Validator) (schema : Value) : Prop :=
  ∀ branches branch candidate, unionBranches? schema = some branches → branch ∈ branches →
    Except.UpTo P (val.violationsOf candidate branch) (val'.violationsOf candidate branch)

lemma judge_upTo {val val' : Validator} {candidate branch : Value}
    (h : Except.UpTo P (val.violationsOf candidate branch) (val'.violationsOf candidate branch)) :
    (Walk.apart val.store (Walk.mapError CoercionFault.schema
      (val.violations candidate branch)) : Walk CoercionError _).UpTo P s t
      (Walk.apart val'.store (Walk.mapError .schema (val'.violations candidate branch))) := by
  refine ⟨judge_steady val candidate branch, judge_steady val' candidate branch, fun here => ?_⟩
  rw [resultAt_judge, resultAt_judge]
  rcases h with h | ⟨e, he, h⟩
  · exact .of_eq (by rw [h])
  · rw [h]
    exact .error he _

lemma ofUnion_upTo {val val' : Validator} {convert convert' : Conversion} {v : Value}
    {branches : List (Value × Nat)}
    (hconvert : ∀ branch ∈ branches, (convert branch.1 v).UpTo P s t (convert' branch.1 v))
    (hjudge : ∀ branch ∈ branches, ∀ candidate, Except.UpTo P
      (val.violationsOf candidate branch.1) (val'.violationsOf candidate branch.1))
    (violations : List Violation) :
    (ofUnion val convert v branches violations).UpTo P s t
      (ofUnion val' convert' v branches violations) := by
  induction branches generalizing violations with
  | nil => exact .const (.throw (by simp [SchemaFault.ofSchema])) fun _ _ => rfl
  | cons branch branches ih =>
    obtain ⟨branch, i⟩ := branch
    have hrest := ih (fun branch hmem => hconvert branch (by simp [hmem]))
      fun branch hmem => hjudge branch (by simp [hmem])
    rw [ofUnion, ofUnion]
    refine (hconvert (branch, i) (by simp)).outcome_bind (fun r hr => ?_) fun _ _ => rfl
    rcases r with e | candidate
    · cases e with
      | schema e => exact .broken fun he => hr (by rw [he]; rfl)
      | boolean | integer | outOfRange | number | noCandidate => exact hrest _
    · refine (judge_upTo (hjudge (branch, i) (by simp) candidate)).bind fun rejected => ?_
      split
      · exact .pure _
      · exact hrest _

end

/-! ### Schemas -/

/-- Two validators lead references to the same and judge the candidates of unions alike. -/
def AgreeUpTo (P : SchemaError → Prop) (val val' : Validator) (scope : String)
    (schema : Value) : Prop :=
  val.store.LeadsAlike val'.store scope schema ∧ JudgesUpTo P val val' schema

/-- Two conversions agree if all references and unions that the first comes to are taken alike,
and the schema itself reads alike in their scopes.  One that does not go as deep may be cut off. -/
lemma convert_upTo {val val' : Validator} {s t : String} {n n' : Nat} (hle : n ≤ n')
    (hcut : n < n' ∨ s ≠ t → ∀ url, P (.referenceCycle url)) {schema : Value}
    (hreads : schema.ReadsAlike s t)
    (h : val.store.Everywhere .conversion (AgreeUpTo P val val') s schema) (v : Value) :
    (convert val n schema v).UpTo P s t (convert val' n' schema v) := by
  induction n generalizing n' s t schema v with
  | zero =>
    refine ⟨convert_steady val 0 schema v, convert_steady val' n' schema v, fun here => ?_⟩
    by_cases hsame : n' = 0 ∧ s = t
    · obtain ⟨rfl, rfl⟩ := hsame
      exact .refl _
    · exact .error (hcut (by grind) s) _
  | succ n ih =>
    obtain ⟨n', rfl⟩ : ∃ k, n' = k + 1 := ⟨n' - 1, by omega⟩
    have hinside {sub : Value} (hsub : schema.Contains sub)
        (h : val.store.Everywhere .conversion (AgreeUpTo P val val') s sub) (w : Value) :
        (convert val n sub w).UpTo P s t (convert val' n' sub w) :=
      ih (by omega) (fun hlt => hcut (hlt.imp_left Nat.succ_lt_succ)) (hreads.of_contains hsub) h w
    rw [convert, convert]
    split
    · rename_i reference href
      obtain ⟨hurl, hscope⟩ := hreads.of_reference? href
      refine UpTo.resolve (f := (convert val n · v)) (g := (convert val' n' · v))
        (convert_steady val n · v) (convert_steady val' n' · v) hurl ?_ fun target hfound => ?_
      · exact hurl ▸ h.here.1 reference href
      · -- Both have come to the same scope, so that the target reads alike whatever it is.
        rw [← hscope]
        exact ih (by omega) (fun hlt => hcut (by grind)) (.refl _ target) (h.jump href hfound) v
    · rename_i href
      split
      · rename_i branches hbranches
        have hmem {branch : Value × Nat} (hbranch : branch ∈ branches.zipIdx) :
            branch.1 ∈ branches := (List.mem_zipIdx_iff_getElem?.1 hbranch |> List.mem_of_getElem?)
        refine ofUnion_upTo (fun branch hbranch => ?_) (fun branch hbranch candidate => ?_) []
        · exact hinside (contains_of_unionBranches? hbranches (hmem hbranch))
            (everywhere_member h (by simp) href hbranches (hmem hbranch)) v
        · exact h.here.2 branches branch.1 candidate hbranches (hmem hbranch)
      · rename_i hnone
        have hparts : PartsUpTo P s t (convert val n) (convert val' n') schema := by
          intro k value steps sub hk hvalue hobject happlies w
          obtain ⟨fields, hfields⟩ := Option.isSome_iff_exists.1 hobject
          obtain rfl := Value.object?_eq_some_iff.1 hfields
          exact hinside ((Value.contains_of_get? hvalue).trans happlies.contains)
            (h.through href (.part hk hnone hvalue) hvalue happlies) w
        split
        · exact ofType_upTo hparts _ v
        · exact ofType_upTo hparts _ v
        · exact .broken (by simp [manyTypes])

end Coercion

/-! ## Where validation reads references -/

/-- A schema opens no scope but the one it stands in. -/
def KeepsScope (scope : String) (schema : Value) : Prop :=
  ∀ uri, (schema.get? "id").bind Value.string? = some uri → Reference.join scope uri = scope

lemma KeepsScope.scopeInside_eq {scope : String} {fields : Fields}
    (h : KeepsScope scope (.object fields)) : scopeInside scope fields = scope := by
  rcases hid : (fields.lookup "id").bind Value.string? with _ | uri
  · exact scopeInside_of_none hid
  · exact (scopeInside_of_id hid).trans (h uri hid)

namespace Keyword

lemma name_inj {k k' : Keyword} (h : k.name = k'.name) : k = k' := by
  have hall : ∀ k ∈ order, ∀ k' ∈ order, k.name = k'.name → k = k' := by decide
  exact hall k (mem_order k) k' (mem_order k') h

namespace Applies

variable {k : Keyword} {value s s' : Value} {steps steps' path path' : List PathStep}

lemma ne_ref (h : k.Applies value steps s) : k ≠ .ref := by
  rintro rfl
  cases h with
  | named hk _ | whole hk | listed hk _ => simp at hk

/-- A path goes on from a keyword to one schema only. -/
lemma unique (hkeys : value.hasUniqueKeys) (h : k.Applies value steps s)
    (h' : k.Applies value steps' s') (hpath : steps ++ path = steps' ++ path') :
    s = s' ∧ path = path' := by
  cases h with
  | named hk hmem =>
    cases h' with
    | named _ hmem' =>
      obtain ⟨hname, hrest⟩ := List.cons.inj hpath
      obtain rfl := PathStep.key.inj hname
      have hnodup := Value.nodup_of_hasUniqueKeys hkeys
      have hlookup := Fields.lookup_of_mem hnodup hmem
      exact ⟨Option.some.inj (hlookup.symm.trans (Fields.lookup_of_mem hnodup hmem')), hrest⟩
    | whole hk' => rcases hk with rfl | rfl <;> simp at hk'
  | whole hk =>
    cases h' with
    | named hk' _ => rcases hk' with rfl | rfl <;> simp at hk
    | whole _ => exact ⟨rfl, hpath⟩
    | listed hk' _ => rcases hk' with rfl | rfl | rfl | rfl <;> simp [Value.array?] at hk
  | listed hk hs =>
    cases h' with
    | whole hk' => rcases hk with rfl | rfl | rfl | rfl <;> simp [Value.array?] at hk'
    | listed _ hs' =>
      obtain ⟨hindex, hrest⟩ := List.cons.inj hpath
      obtain rfl := PathStep.index.inj hindex
      exact ⟨Option.some.inj (hs.symm.trans hs'), hrest⟩

end Applies

end Keyword

namespace Store

variable {store : Store} {l : Lookup} {scope scope' reference : String} {schema node : Value}
  {path : List PathStep} {place : Place}

namespace Leads

variable {fields : Fields} {value : Value}

lemma path_ne_nil (h : store.Leads scope schema path place) : path ≠ [] := by
  cases h <;> simp

/-- The path of a reference leads to the reference. -/
lemma place_eq_of_ref (hvalue : fields.lookup Keyword.ref.name = some value)
    (h : store.Leads scope (.object fields) [.key Keyword.ref.name] place) :
    place = ⟨scopeInside scope fields, fields, .ref, value⟩ := by
  generalize hpath : [PathStep.key Keyword.ref.name] = steps at h
  cases h with
  | @keyword _ _ k value' hvalue' =>
    obtain ⟨hname, -⟩ := List.cons.inj hpath
    obtain rfl := Keyword.name_inj (PathStep.key.inj hname)
    obtain rfl := Option.some.inj (hvalue.symm.trans hvalue')
    rfl
  | through _ _ hrest =>
    obtain ⟨-, hnil⟩ := List.cons.inj hpath
    exact absurd (List.append_eq_nil_iff.1 hnil.symm).2 hrest.path_ne_nil
  | jump _ _ hrest =>
    obtain ⟨-, hnil⟩ := List.cons.inj hpath
    exact absurd hnil.symm hrest.path_ne_nil

/-- A path that goes through a keyword goes on inside the schema that is applied there. -/
lemma inside {s : Value} {k : Keyword} {steps : List PathStep} (hkeys : value.hasUniqueKeys)
    (hvalue : fields.lookup k.name = some value) (happlies : k.Applies value steps s)
    (hpath : path ≠ [])
    (h : store.Leads scope (.object fields) (.key k.name :: (steps ++ path)) place) :
    store.Leads (scopeInside scope fields) s path place := by
  generalize hsteps : PathStep.key k.name :: (steps ++ path) = steps' at h
  cases h with
  | keyword =>
    obtain ⟨-, hnil⟩ := List.cons.inj hsteps
    exact absurd (List.append_eq_nil_iff.1 hnil).2 hpath
  | through hvalue' happlies' hrest =>
    obtain ⟨hname, htail⟩ := List.cons.inj hsteps
    obtain rfl := Keyword.name_inj (PathStep.key.inj hname)
    obtain rfl := Option.some.inj (hvalue.symm.trans hvalue')
    obtain ⟨rfl, rfl⟩ := happlies.unique hkeys happlies' htail
    exact hrest
  | jump =>
    obtain ⟨hname, -⟩ := List.cons.inj hsteps
    exact absurd (Keyword.name_inj (PathStep.key.inj hname)) happlies.ne_ref

/-- A path that follows a reference goes on from its target. -/
lemma target {target : Value}
    (hvalue : fields.lookup Keyword.ref.name = some (.string reference))
    (hfound : store.resolveUrl (Reference.join (scopeInside scope fields) reference) = .ok target)
    (hpath : path ≠ [])
    (h : store.Leads scope (.object fields) (.key Keyword.ref.name :: path) place) :
    store.Leads (Reference.join (scopeInside scope fields)
      (Reference.join (scopeInside scope fields) reference)) target path place := by
  generalize hsteps : PathStep.key Keyword.ref.name :: path = steps' at h
  cases h with
  | keyword =>
    obtain ⟨-, hnil⟩ := List.cons.inj hsteps
    exact absurd hnil hpath
  | through _ happlies' _ =>
    obtain ⟨hname, -⟩ := List.cons.inj hsteps
    exact absurd (Keyword.name_inj (PathStep.key.inj hname)).symm happlies'.ne_ref
  | jump hvalue' hfound' hrest =>
    obtain ⟨-, rfl⟩ := List.cons.inj hsteps
    obtain rfl := Value.string.inj (Option.some.inj (hvalue.symm.trans hvalue'))
    obtain rfl := Except.ok.inj (hfound.symm.trans hfound')
    exact hrest

end Leads

/-- Validation may get to the reference that a lookup has come to. -/
lemma Comes.exists_leads (h : store.Comes l KeepsScope scope schema path scope' node)
    (href : reference? node = some reference) :
    ∃ place, store.Leads scope schema (path ++ [.key Keyword.ref.name]) place := by
  induction h with
  | here =>
    obtain ⟨fields, rfl, hlookup⟩ := exists_fields_of_reference? href
    exact ⟨_, .keyword hlookup⟩
  | @through scope _ schema value s node k steps path hkeeps _ _ hvalue happlies _ ih =>
    obtain ⟨place, hleads⟩ := ih href
    cases schema with
    | object fields =>
      rw [← hkeeps.scopeInside_eq] at hleads
      have hpath := Leads.through hvalue happlies hleads
      exact ⟨place, by simpa only [List.append_assoc, List.cons_append] using hpath⟩
    | _ => cases hvalue
  | jump hkeeps href' hfound _ ih =>
    obtain ⟨place, hleads⟩ := ih href
    obtain ⟨fields, rfl, hlookup⟩ := exists_fields_of_reference? href'
    rw [← hkeeps.scopeInside_eq] at hfound hleads
    exact ⟨place, .jump hlookup hfound hleads⟩

/-- Wherever validation gets to on the path of a lookup, it is the reference that the lookup has
come to, in the same scope. -/
lemma Comes.place_eq (h : store.Comes l KeepsScope scope schema path scope' node)
    (href : reference? node = some reference) (hkeys : schema.hasUniqueKeys)
    (hdocuments : ∀ entry ∈ store.documents, entry.2.hasUniqueKeys)
    (hleads : store.Leads scope schema (path ++ [.key Keyword.ref.name]) place) :
    place.value = .string reference ∧ place.scope = scope' := by
  induction h with
  | here hkeeps =>
    obtain ⟨fields, rfl, hlookup⟩ := exists_fields_of_reference? href
    obtain rfl := hleads.place_eq_of_ref hlookup
    exact ⟨rfl, hkeeps.scopeInside_eq⟩
  | @through scope _ schema value s node k steps path hkeeps _ _ hvalue happlies _ ih =>
    cases schema with
    | object fields =>
      have hunique : value.hasUniqueKeys :=
        Value.hasUniqueKeys_of_partOf hkeys (Value.partOf_of_lookup hvalue)
      rw [List.cons_append, List.append_assoc] at hleads
      have hinside := hleads.inside hunique hvalue happlies (by simp)
      rw [hkeeps.scopeInside_eq] at hinside
      exact ih href (Value.hasUniqueKeys_of_contains hunique happlies.contains) hinside
    | _ => cases hvalue
  | jump hkeeps href' hfound _ ih =>
    obtain ⟨fields, rfl, hlookup⟩ := exists_fields_of_reference? href'
    obtain ⟨entry, hentry, -, hcontains⟩ := exists_document_of_resolveUrl hfound
    rw [← hkeeps.scopeInside_eq] at hfound
    have htarget := hleads.target hlookup hfound (by simp)
    rw [hkeeps.scopeInside_eq] at htarget
    exact ih href (Value.hasUniqueKeys_of_contains (hdocuments entry hentry) hcontains) htarget

end Store

/-- **A lookup reads references as validation does** as long as no schema on the way opens another
scope.  What is found depends on nothing but the references that the lookup comes to, each read in
the scope that the last reference has led to, and for conversions on how unions judge candidates.
Validation may get to each of these references on the same path, and what it finds there is the
same reference, read from the same URL. -/
theorem lookups_read_as_validation (val : Validator) (scope : String) (schema : Value) :
    (∀ store' n here, val.store.Everywhere .default (val.store.LeadsAlike store') scope schema →
      (findDefault val.store n schema).resultAt scope here =
        (findDefault store' n schema).resultAt scope here) ∧
    (∀ store' n here, val.store.Everywhere .format (val.store.LeadsAlike store') scope schema →
      (declaredFormat val.store n schema).resultAt scope here =
        (declaredFormat store' n schema).resultAt scope here) ∧
    (∀ store' n here, val.store.Everywhere .type (val.store.LeadsAlike store') scope schema →
      (typeOf val.store n schema).resultAt scope here =
        (typeOf store' n schema).resultAt scope here) ∧
    (∀ val' n here v,
      val.store.Everywhere .conversion (Coercion.AgreeUpTo (fun _ => False) val val') scope schema →
      (Coercion.convert val n schema v).resultAt scope here =
        (Coercion.convert val' n schema v).resultAt scope here) ∧
    (schema.hasUniqueKeys → (∀ entry ∈ val.store.documents, entry.2.hasUniqueKeys) →
      ∀ l path scope' node reference, val.store.Comes l KeepsScope scope schema path scope' node →
        reference? node = some reference →
        (∃ place, val.store.Leads scope schema (path ++ [.key Keyword.ref.name]) place) ∧
        ∀ place, val.store.Leads scope schema (path ++ [.key Keyword.ref.name]) place →
          place.value = .string reference ∧
            Reference.join place.scope reference = Reference.join scope' reference) := by
  refine ⟨fun store' n here h => ?_, fun store' n here h => ?_, fun store' n here h => ?_,
    fun val' n here v h => ?_, fun hkeys hdocuments l path scope' node reference hcomes href => ?_⟩
  · exact ((Validator.findDefault_upTo n h).result here).eq
  · exact ((Validator.declaredFormat_upTo n h).result here).eq
  · exact ((Coercion.typeOf_upTo n h).result here).eq
  · have hsame : ¬ (n < n ∨ scope ≠ scope) := by simp
    exact ((Coercion.convert_upTo (Nat.le_refl n) (fun hother => absurd hother hsame)
      (.refl scope schema) h v).result here).eq
  · refine ⟨hcomes.exists_leads href, fun place hleads => ?_⟩
    obtain ⟨hvalue, hscope⟩ := hcomes.place_eq href hkeys hdocuments hleads
    exact ⟨hvalue, by rw [hscope]⟩

namespace Neighbours

/-- A document with a default under a name. -/
def near : Value := .object [("d", .object [("default", .string "near")])]

/-- Another one, which has a default under the same name, by a reference of its own. -/
def far : Value := .object [
  ("d", .object [("$ref", .string "#/e")]), ("e", .object [("default", .string "far")])]

/-- Both documents, the first of which is the root. -/
def store : Store :=
  ⟨"http://x/a.json", [("http://x/a.json", near), ("http://x/b.json", far)]⟩

/-- The other document alone. -/
def farStore : Store := ⟨"http://x/a.json", [("http://x/b.json", far)]⟩

/-- A validator that fills missing properties. -/
def validator : Validator := ⟨store, Dialect.oas3.formats, true⟩

/-- A schema with a reference. -/
def referring (reference : String) : Value := .object [("$ref", .string reference)]

/-- A schema with a reference to the other document. -/
def pointing : Value := .object [("allOf", .array [referring "b.json#/d"])]

/-- A schema that opens the scope of the other document, with a reference inside it. -/
def moving : Value :=
  .object [("id", .string "http://x/b.json"), ("allOf", .array [referring "#/d"])]

/-- The URLs that references are joined to, and the documents they are in. -/
lemma join_eq :
    Reference.join "http://x/a.json" "b.json#/d" = "http://x/b.json#/d" ∧
    Reference.join "http://x/a.json" "http://x/b.json#/d" = "http://x/b.json#/d" ∧
    Reference.join "http://x/b.json#/d" "#/e" = "http://x/b.json#/e" ∧
    Reference.join "http://x/a.json" "#/d" = "http://x/a.json#/d" ∧
    Reference.join "http://x/a.json" "http://x/b.json" = "http://x/b.json" ∧
    Reference.join "http://x/b.json" "#/d" = "http://x/b.json#/d" ∧
    (∀ url ∈ ["http://x/b.json#/d", "http://x/b.json#/e"],
      Reference.normalize (String.ofList (Reference.document url)) = "http://x/b.json") := by
  decide +kernel

/-- The reference to the other document leads to the definition there. -/
lemma resolveUrl_pointing : store.resolveUrl "http://x/b.json#/d" = .ok (referring "#/e") := by
  obtain ⟨-, -, -, -, -, -, hdocument⟩ := join_eq
  rw [Store.resolveUrl_eq, hdocument _ (by simp)]
  rfl

/-- The reference in the other document leads to the default. -/
lemma resolveUrl_relative :
    store.resolveUrl "http://x/b.json#/e" = .ok (.object [("default", .string "far")]) := by
  obtain ⟨-, -, -, -, -, -, hdocument⟩ := join_eq
  rw [Store.resolveUrl_eq, hdocument _ (by simp)]
  rfl

/-- What a reference to the other document leads to does not depend on the first one. -/
lemma leadsAlike_referring {scope reference url : String}
    (hurl : Reference.join scope reference = url)
    (hmem : url ∈ ["http://x/b.json#/d", "http://x/b.json#/e"]) :
    store.LeadsAlike farStore scope (referring reference) := by
  intro reference' href
  obtain rfl := Option.some.inj href
  obtain ⟨-, -, -, -, -, -, hdocument⟩ := join_eq
  rw [hurl, Store.resolveUrl_eq, Store.resolveUrl_eq, hdocument url hmem]
  rfl

/-- The references that the search for the default comes to do not lead to the first document. -/
lemma everywhere_pointing :
    store.Everywhere .default (store.LeadsAlike farStore) "http://x/a.json" pointing := by
  obtain ⟨hjoin, hagain, hrelative, -⟩ := join_eq
  refine .of_parts (fun _ href => by cases href) rfl ?_
  intro k value steps s hpasses hvalue happlies
  cases hpasses with
  | member hl => simp at hl
  | branch =>
    cases happlies with
    | named hk | whole hk => simp at hk
    | listed _ hs =>
      obtain rfl := Value.array.inj (Option.some.inj hvalue)
      obtain rfl : s = referring "b.json#/d" := by
        simpa using List.mem_of_getElem? hs
      refine .of_target (leadsAlike_referring hjoin (by simp)) rfl
        (hjoin ▸ resolveUrl_pointing) ?_
      rw [hjoin, hagain]
      refine .of_target (leadsAlike_referring hrelative (by simp)) rfl
        (hrelative ▸ resolveUrl_relative) ?_
      refine .of_parts (fun _ href => by cases href) rfl fun k value steps s hpasses hvalue _ => ?_
      cases hpasses with
      | member hl => simp at hl
      | branch hdefault => cases hdefault

/-- The way from the schema to the definition in the other document. -/
lemma comes_pointing :
    store.Comes .default KeepsScope "http://x/a.json" pointing
      [.key "allOf", .index 0, .key "$ref"] "http://x/b.json#/d" (referring "#/e") := by
  obtain ⟨hjoin, hagain, -⟩ := join_eq
  have hkeeps (scope : String) (schema : Value) (hid : schema.get? "id" = none) :
      KeepsScope scope schema := by
    intro uri huri
    simp [hid] at huri
  refine .through (k := .allOf) (s := referring "b.json#/d") (hkeeps _ _ rfl) rfl (.branch rfl) rfl
    (.listed (i := 0) (by simp) rfl) ?_
  refine .jump (hkeeps _ _ rfl) rfl (hjoin ▸ resolveUrl_pointing) ?_
  rw [hjoin, hagain]
  exact .here (hkeeps _ _ rfl)

end Neighbours

/-- A default in another document is found without the first document, and validation reads the
reference to it from the same URL. -/
theorem far_default_is_read_as_validated :
    (findDefault Neighbours.store 65 Neighbours.pointing).resultAt "http://x/a.json" [] =
      (findDefault Neighbours.farStore 65 Neighbours.pointing).resultAt "http://x/a.json" [] ∧
    ∃ place, Neighbours.store.Leads "http://x/a.json" Neighbours.pointing
        [.key "allOf", .index 0, .key "$ref", .key "$ref"] place ∧
      place.value = .string "#/e" ∧
      Reference.join place.scope "#/e" = Reference.join "http://x/b.json#/d" "#/e" := by
  obtain ⟨hfound, -, -, -, hread⟩ := lookups_read_as_validation Neighbours.validator
    "http://x/a.json" Neighbours.pointing
  refine ⟨hfound _ 65 [] Neighbours.everywhere_pointing, ?_⟩
  obtain ⟨⟨place, hleads⟩, hplace⟩ := hread (by decide) (by decide) _ _ _ _ "#/e"
    Neighbours.comes_pointing rfl
  exact ⟨place, hleads, hplace place hleads⟩

/-- **Below a schema that opens a scope a default comes from the wrong document.**  Inside the
schema validation reads the reference from the document whose scope the schema opens; the search
for the default reads it from the document around the schema, and finds another default. -/
theorem near_default_is_found :
    Neighbours.store.Comes .default (fun _ _ => True) "http://x/a.json" Neighbours.moving
        [.key "allOf", .index 0] "http://x/a.json" (Neighbours.referring "#/d") ∧
    Reference.join "http://x/a.json" "#/d" = "http://x/a.json#/d" ∧
    ((findDefault Neighbours.store 65 Neighbours.moving).resultAt "http://x/a.json"
      []).toOption.join.bind Value.string? = some "near" ∧
    (Neighbours.validator.validate (.object [])
        (.object [("properties", .object [("p", Neighbours.moving)])])).toOption.any
      (fun out => (out.value.get? "p").bind Value.string? = some "near") ∧
    ∃ place, Neighbours.store.Leads "http://x/a.json" Neighbours.moving
        [.key "allOf", .index 0, .key "$ref"] place ∧
      place.value = .string "#/d" ∧ Reference.join place.scope "#/d" = "http://x/b.json#/d" := by
  obtain ⟨-, -, -, haround, hopened, hinside, -⟩ := Neighbours.join_eq
  have hfilled : ((findDefault Neighbours.store 65 Neighbours.moving).resultAt "http://x/a.json"
        []).toOption.join.bind Value.string? = some "near" ∧
      (Neighbours.validator.validate (.object [])
          (.object [("properties", .object [("p", Neighbours.moving)])])).toOption.any
        (fun out => (out.value.get? "p").bind Value.string? = some "near") := by
    decide +kernel
  refine ⟨?_, haround, hfilled.1, hfilled.2,
    ⟨"http://x/b.json", [("$ref", .string "#/d")], .ref, .string "#/d"⟩, ?_, rfl, hinside⟩
  · exact .through (k := .allOf) (s := Neighbours.referring "#/d") trivial rfl (.branch rfl) rfl
      (.listed (i := 0) (by simp) rfl) (.here trivial)
  · refine .through (k := .allOf) (s := Neighbours.referring "#/d") rfl
      (.listed (i := 0) (by simp) rfl) ?_
    rw [scopeInside_of_id rfl, hopened]
    exact .keyword (k := .ref) rfl

end ApiContract
