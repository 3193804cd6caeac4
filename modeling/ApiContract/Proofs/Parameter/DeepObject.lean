/-
# Objects whose keys stand in brackets

An object may come in a query with a field `name[key]=value` for each of its own.  The brackets are
looked for in the decoded key, the first one right after the name and the other one at the very
end, so the key between them may have any characters, brackets included.  Fields with other keys,
put in between, are not looked at.
-/
import ApiContract.Proofs.Exchange.Unrelated
import ApiContract.Proofs.Parameter.TextList
import Mathlib.Data.List.Nodup

namespace ApiContract

namespace Query

variable {name text : String} {pairs : List (String × String)} {members : List (List Char)}

/-! ## Members of an object -/

/-- The fields of an object, with their keys in brackets behind a name. -/
def bracketed (name : String) (pairs : List (String × String)) : List (String × String) :=
  pairs.map fun (key, value) => (name ++ "[" ++ key ++ "]", value)

lemma bracketed?_bracket (name key : String) :
    bracketed? name (name ++ "[" ++ key ++ "]") = some key :=
  bracketed?_eq_some_iff.2 rfl

/-- Different keys are different in brackets, too. -/
lemma nodup_bracketed (h : (Fields.keys pairs).Nodup) :
    (Fields.keys (bracketed name pairs)).Nodup := by
  have hkeys : Fields.keys (bracketed name pairs) =
      (Fields.keys pairs).map fun key => name ++ "[" ++ key ++ "]" := by
    simp [bracketed, Fields.keys, Function.comp_def]
  have hinjective : Function.Injective fun key => name ++ "[" ++ key ++ "]" := by
    intro key key' heq
    have hsome : bracketed? name (name ++ "[" ++ key ++ "]") = some key' := by
      rw [show name ++ "[" ++ key ++ "]" = _ from heq, bracketed?_bracket]
    exact Option.some.inj ((bracketed?_bracket name key).symm.trans hsome)
  rw [hkeys]
  exact List.Nodup.map hinjective h

/-- A member of an object as forms write it if they leave the brackets as they are. -/
def memberText (name : String) (pair : String × String) : List Char :=
  (Percent.encodeForm name.toList ++ (['['] ++ (Percent.encodeForm pair.1.toList ++ [']']))) ++
    '=' :: Percent.encodeForm pair.2.toList

/-- The brackets need not be encoded. -/
lemma spellsField_memberText (name : String) (pair : String × String) :
    SpellsField (memberText name pair) (name ++ "[" ++ pair.1 ++ "]", pair.2) := by
  have hequals := Percent.not_mem_encodeForm (d := '=') rfl (by decide) (by decide) (by decide) rfl
  have hampersand :=
    Percent.not_mem_encodeForm (d := '&') rfl (by decide) (by decide) (by decide) rfl
  refine ⟨_, _, rfl, by simp [hequals], by simp [hampersand], hampersand _, ?_,
    Percent.formSpells_encodeForm _⟩
  have hkey : (name ++ "[" ++ pair.1 ++ "]").toList =
      name.toList ++ (['['] ++ (pair.1.toList ++ [']'])) := by simp
  rw [hkey]
  exact (Percent.formSpells_encodeForm _).append ((Percent.FormSpells.plain (by decide)
    (by decide)).append ((Percent.formSpells_encodeForm _).append
      (Percent.FormSpells.plain (by decide) (by decide))))

/-- A piece of a query is a field that has nothing to do with an object: its key is not the name of
the object with something in brackets behind it. -/
def IsOutside (name : String) (piece : List Char) : Prop :=
  ∃ field, formField? piece = some field ∧ ∀ key, field.1 ≠ name ++ "[" ++ key ++ "]"

lemma bracketed?_eq_none {key : String} (h : ∀ inner, key ≠ name ++ "[" ++ inner ++ "]") :
    bracketed? name key = none := by
  cases hinner : bracketed? name key with
  | none => rfl
  | some inner => exact absurd (bracketed?_eq_some_iff.1 hinner) (h inner)

/-- The members of an object are put together in the order in which they come. -/
lemma deepObject?_grouped (hdistinct : (Fields.keys pairs).Nodup) :
    deepObject? name (grouped (bracketed name pairs)) =
      if pairs = [] then none
      else some (.object (pairs.map fun (key, value) => (key, .string value))) := by
  obtain ⟨fields, hfields⟩ : ∃ fields : Fields,
      pairs.map (fun (key, value) => (key, Value.string value)) = fields := ⟨_, rfl⟩
  have hmembers : ((grouped (bracketed name pairs)).filterMap fun entry =>
      (bracketed? name entry.1).bind fun inner => entry.2.head?.bind fun first =>
        some (inner, Value.string first)) = fields := by
    rw [grouped_of_nodup (nodup_bracketed hdistinct), bracketed, List.map_map, List.filterMap_map,
      ← hfields, ← List.filterMap_eq_map]
    refine List.filterMap_congr fun pair _ => ?_
    simp [bracketed?_bracket]
  have hkeys : (Fields.keys fields).Nodup := by
    simpa [← hfields, Fields.keys, Function.comp_def] using hdistinct
  have hobject : deepObject? name (grouped (bracketed name pairs)) =
      if fields.isEmpty then none else some (.object (Fields.ofPairs fields)) :=
    congrArg (fun fields : Fields => if fields.isEmpty then none
      else some (Value.object (Fields.ofPairs fields))) hmembers
  rw [hobject, Fields.ofPairs_of_nodup hkeys, hfields, ← hfields]
  cases pairs <;> rfl

/-- A query carries an object: for each of its fields it has one with the key in brackets, in any
spelling that encodes the delimiters, and in between it may have fields that have nothing to do with
the object. -/
structure CarriesObject (text name : String) (pairs : List (String × String)) : Prop where
  /-- The object is not empty. -/
  nonempty : pairs ≠ []
  /-- No key comes twice. -/
  distinct : (Fields.keys pairs).Nodup
  /-- The fields stand in the query in their order. -/
  spelled : ∃ members, List.Forall₂ SpellsField members (bracketed name pairs) ∧
    Interspersed (IsOutside name) members (pieces text)

/-- Members of an object, with fields that have nothing to do with it in between, are read as the
object. -/
lemma deepObject?_of_interspersed (hdistinct : (Fields.keys pairs).Nodup)
    (hmembers : List.Forall₂ SpellsField members (bracketed name pairs))
    (hpieces : Interspersed (IsOutside name) members (pieces text)) :
    ∃ query, ofText text = .ok query ∧ deepObject? name query =
      if pairs = [] then none
      else some (.object (pairs.map fun (key, value) => (key, .string value))) := by
  have hfields : fields members = .ok (bracketed name pairs) :=
    fields_eq_ok_iff.2 (hmembers.imp fun _ _ h => h.formField?_eq)
  rcases fields_interspersed hpieces with ⟨e, he, -⟩ | ⟨own, all, hown, hall, hinter⟩
  · rw [hfields] at he
    cases he
  · obtain rfl := Except.ok.inj (hfields.symm.trans hown)
    refine ⟨collect all [], by rw [ofText_eq, hall]; rfl, ?_⟩
    -- The other fields belong to no key in brackets.
    obtain ⟨kind, hkind⟩ : ∃ kind : String → Bool,
        kind = fun key => (bracketed? name key).isSome := ⟨_, rfl⟩
    have hothers : Interspersed (fun pair => kind pair.1 = false) (bracketed name pairs) all :=
      hinter.mono fun pair hpair => by simp [hkind, bracketed?_eq_none hpair]
    have hlooks (key inner : String) (h : bracketed? name key = some inner) : kind key = true := by
      simp [hkind, h]
    have hrestrict : (collect all []).restrict kind =
        (collect (bracketed name pairs) []).restrict kind :=
      restrict_collect hothers rfl
    rw [← deepObject?_restrict hlooks, hrestrict, deepObject?_restrict hlooks, collect_nil,
      deepObject?_grouped hdistinct]

end Query

/-! ## Parameters that are objects -/

/-- A schema for objects: its type is its only keyword. -/
def IsObjectSchema (schema : Value) : Prop :=
  ∃ fields, schema = .object fields ∧ Validator.keywordsOf fields = [(.type, .string "object")]

namespace Parameter

open Coercion Validator

variable {p : Parameter} {val : Validator} {schema : Value} {fields : Fields}

/-- An object is not converted by a schema that says nothing about its fields. -/
lemma coerced_object (hschema : IsObjectSchema schema) (fields : Fields) :
    val.run (val.coerced schema (.object fields)) = .ok (.object fields) := by
  obtain ⟨keywords, rfl, hkeywords⟩ := hschema
  have habsent {k : Keyword} (hk : k ≠ .type) : keywords.lookup k.name = none :=
    lookup_eq_none_of_not_mem (by simpa [hkeywords] using hk)
  have hproperties : (Value.object keywords).get? "properties" = none :=
    habsent (k := .properties) (by simp)
  have hadditional : (Value.object keywords).get? "additionalProperties" = none :=
    habsent (k := .additionalProperties) (by simp)
  have htype : keywords.lookup Keyword.type.name = some (.string "object") :=
    Keyword.mem_keywordsOf.1 (by simp [hkeywords])
  rw [coerced, convert_of_type (reference?_eq_none (habsent (by simp))) htype]
  change val.run (Coercion.fields _ _ fields) = _
  rw [Coercion.fields, hproperties, hadditional]
  rfl

lemma typed_object (hp : p.schema = some schema) (hschema : IsObjectSchema schema)
    (fields : Fields) : p.typed val (.object fields) = .ok (.object fields) := by
  obtain ⟨keywords, rfl, hkeywords⟩ := id hschema
  obtain ⟨n, hn⟩ := val.exists_visitDepth (.object fields) (.object keywords)
  have hsilent : ∃ o, (val.outcome (.object fields) (.object keywords)).resultAt
      val.store.baseUri [] = .ok o ∧ o.IsSilent := by
    rw [outcome, hn]
    exact visit_typed hkeywords rfl rfl
  obtain ⟨out, hout, hvalue⟩ := validate_of_silent hsilent
  exact (typed_eq_ok_iff hp).2 ⟨_, out, coerced_object hschema fields, hout, hvalue⟩

lemma declaredType_object (hp : p.schema = some schema) (hschema : IsObjectSchema schema) :
    p.declaredType val = .ok "object" := by
  obtain ⟨keywords, rfl, hkeywords⟩ := hschema
  rw [declaredType, hp]
  dsimp only
  have htype : keywords.lookup Keyword.type.name = some (.string "object") :=
    Keyword.mem_keywordsOf.1 (by simp [hkeywords])
  rw [Validator.declaredType, typeOf_of_type
    (reference?_eq_none (lookup_eq_none_of_not_mem (by simp [hkeywords]))) htype]
  rfl

/-- A parameter is an object with its keys in brackets. -/
structure IsDeepObject (p : Parameter) : Prop where
  /-- It comes in the query. -/
  location : p.location = .query
  /-- Its keys stand in brackets. -/
  style : p.style = .deepObject
  /-- It may not be empty. -/
  allowsEmpty : p.allowsEmpty = false
  /-- Its schema says that it is an object. -/
  schema : ∃ schema, p.schema = some schema ∧ IsObjectSchema schema

/-- A parameter that is an object with its keys in brackets has the value that is put together from
them; without any it is missing. -/
lemma check_deepObject (h : p.IsDeepObject) (source : Source) :
    (∀ fields, source.query.deepObject? p.name = some (.object fields) →
      p.check val source = .ok (some (.object fields))) ∧
    (source.query.deepObject? p.name = none → p.isRequired = false →
      p.check val source = .ok none) := by
  obtain ⟨hlocation, hstyle, hempty, schema, hp, hschema⟩ := h
  have hfind (type : String) :
      p.find val type source = .ok (.ofRaw (source.query.deepObject? p.name)) := by
    simp [find, findInQuery, hlocation, hstyle]
  have hsought : p.Sought val "object" :=
    ⟨hempty, by rw [hstyle]; rfl, declaredType_object hp hschema⟩
  refine ⟨fun fields hfields => ?_, fun hnone hoptional => ?_⟩
  · have hraw := hfind "object"
    rw [hfields] at hraw
    exact check_of_raw hempty hsought.supported hsought.type hraw rfl (typed_object hp hschema _)
  · have habsent := hfind "object"
    rw [hnone] at habsent
    rw [hsought.check_of_absent habsent, hoptional]
    rfl

/-- A text is read as a query with an object, which is the value of every parameter of its name that
is an object with its keys in brackets. -/
structure Delivers (text name : String) (v : Value) (query : Query) : Prop where
  /-- The query can be read. -/
  read : Query.ofText text = .ok query
  /-- The object is put together. -/
  object : query.deepObject? name = some v
  /-- Parameters have it as their value. -/
  arrives : ∀ p : Parameter, p.name = name → p.IsDeepObject → ∀ val path request,
    p.check val ⟨path, query, request⟩ = .ok (some v)

/-- **Objects with keys in brackets arrive.**  For every field of an object a query has a field
`name[key]=value`, in any spelling that encodes the delimiters, and in between it may have any
other fields whose keys are not of this form.  Then the object is put together again, with these
keys and values in this order, and it is the value of the parameter; the keys may have any
characters.  If there are no fields of this form, there is no object. -/
theorem deepObject_arrives (name : String) :
    (∀ pairs text, Query.CarriesObject text name pairs →
      ∃ query, Delivers text name (.object (pairs.map fun (key, value) => (key, .string value)))
        query) ∧
    ∀ text, (∀ piece ∈ Query.pieces text, Query.IsOutside name piece) →
      ∃ query, Query.ofText text = .ok query ∧ query.deepObject? name = none := by
  refine ⟨fun pairs text ⟨hne, hdistinct, members, hmembers, hpieces⟩ => ?_,
    fun text houtside => ?_⟩
  · obtain ⟨query, hquery, hobject⟩ := Query.deepObject?_of_interspersed hdistinct hmembers hpieces
    rw [if_neg hne] at hobject
    refine ⟨query, hquery, hobject, fun p hname hdeep val path request => ?_⟩
    exact (check_deepObject hdeep ⟨path, query, request⟩).1 _ (by rw [hname]; exact hobject)
  · have hnone : ∀ pieces : List (List Char), (∀ piece ∈ pieces, Query.IsOutside name piece) →
        Interspersed (Query.IsOutside name) [] pieces := by
      intro pieces h
      induction pieces with
      | nil => exact .nil
      | cons piece pieces ih =>
        exact .put (h piece List.mem_cons_self) (ih fun q hq => h q (List.mem_cons_of_mem _ hq))
    have hnothing : List.Forall₂ SpellsField [] (Query.bracketed name []) := .nil
    have hdistinct : (Fields.keys ([] : List (String × String))).Nodup := List.nodup_nil
    exact Query.deepObject?_of_interspersed hdistinct hnothing (hnone _ houtside)

/-! ### A search with odd keys -/

/-- A search whose conditions have brackets, ampersands, equals and percent signs in their keys and
values; one of them is encoded as a whole, and a field of another object stands in between. -/
def oddSearch : String :=
  "filter%5Ba%5D%5Bb%5D=%26&filterx[c]=9&filter[%3D]=50%25&filter[]=x+y"

/-- The conditions of a search. -/
def conditions : Parameter :=
  ⟨"filter", .query, .deepObject, false, true, false, some (.object [("type", .string "object")])⟩

/-- All conditions arrive, and nothing arrives for another object. -/
theorem odd_keys_arrive :
    ∃ query, Query.ofText oddSearch = .ok query ∧
      (∀ val path request, conditions.check val ⟨path, query, request⟩ = .ok (some (.object
        [("a][b", .string "&"), ("=", .string "50%"), ("", .string "x y")]))) ∧
      query.deepObject? "limit" = none := by
  have hpieces : Query.pieces oddSearch =
      [fieldText ("filter[a][b]", "&"), "filterx[c]=9".toList,
        Query.memberText "filter" ("=", "50%"), Query.memberText "filter" ("", "x y")] := by
    decide +kernel
  have hmembers : List.Forall₂ SpellsField
      [fieldText ("filter[a][b]", "&"), Query.memberText "filter" ("=", "50%"),
        Query.memberText "filter" ("", "x y")]
      (Query.bracketed "filter" [("a][b", "&"), ("=", "50%"), ("", "x y")]) :=
    .cons (spellsField_fieldText ("filter[a][b]", "&"))
      (.cons (Query.spellsField_memberText _ _) (.cons (Query.spellsField_memberText _ _) .nil))
  have houtside {name : String} {piece : List Char} (field : String × String)
      (hfield : formField? piece = some field) (hnone : Query.bracketed? name field.1 = none) :
      Query.IsOutside name piece := by
    refine ⟨field, hfield, fun inner heq => ?_⟩
    rw [Query.bracketed?_eq_some_iff.2 heq] at hnone
    cases hnone
  have hinter : Interspersed (Query.IsOutside "filter")
      [fieldText ("filter[a][b]", "&"), Query.memberText "filter" ("=", "50%"),
        Query.memberText "filter" ("", "x y")] (Query.pieces oddSearch) := by
    rw [hpieces]
    exact .keep _ (.put (houtside ("filterx[c]", "9") (by decide +kernel) (by decide +kernel))
      (.keep _ (.keep _ .nil)))
  have hnothing : ∀ piece ∈ Query.pieces oddSearch, Query.IsOutside "limit" piece := by
    rw [hpieces]
    simp only [List.forall_mem_cons, List.not_mem_nil, false_implies, implies_true, and_true]
    exact ⟨houtside _ (formField?_fieldText _) (by decide +kernel),
      houtside ("filterx[c]", "9") (by decide +kernel) (by decide +kernel),
      houtside _ (Query.spellsField_memberText _ _).formField?_eq (by decide +kernel),
      houtside _ (Query.spellsField_memberText _ _).formField?_eq (by decide +kernel)⟩
  obtain ⟨query, hquery, -, hcheck⟩ := (deepObject_arrives "filter").1 _ oddSearch
    ⟨List.cons_ne_nil _ _, by decide, _, hmembers, hinter⟩
  obtain ⟨query', hquery', hnone⟩ := (deepObject_arrives "limit").2 oddSearch hnothing
  obtain rfl := Except.ok.inj (hquery.symm.trans hquery')
  refine ⟨query, hquery, fun val path request => ?_, hnone⟩
  exact hcheck conditions rfl ⟨rfl, rfl, rfl, _, rfl, _, rfl, rfl⟩ val path request

end Parameter

end ApiContract
