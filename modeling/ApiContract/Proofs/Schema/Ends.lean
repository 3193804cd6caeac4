/-
# Good ends of keywords

A keyword that comes to a good end has come through all of its steps.  What it contributes can
be read off their results: the visits it has made, the parts it has put together.  For each
keyword that applies schemas there is one statement of this kind, in both directions.
-/
import ApiContract.Proofs.Schema.Asks
import ApiContract.Proofs.Schema.Steady

namespace ApiContract

namespace Applicator

open Walk

variable {val : Validator} {visit : Visit} {scope : String} {here : List String}

lemma child_ok_iff (hvisit : visit.Steady) {κ : Type} {place : κ}
    {v schema : Value} {path schemaPath : List PathStep} (hpath : path ≠ []) {part : Part κ} :
    (child visit place v schema path schemaPath).resultAt scope here = .ok part ↔
      part.place = place ∧
        visit.answer scope here ⟨path, schemaPath, v, schema⟩ = .ok part.outcome := by
  rw [child, bind_pure_ok_iff (hvisit v schema).onChild,
    resultAt_onChild (hvisit v schema), Visit.answer_eq_ok_iff]
  simp only [if_neg hpath]
  constructor
  · rintro ⟨o, ho, rfl⟩
    exact ⟨rfl, o, ho, rfl⟩
  · rintro ⟨rfl, o, ho, hunder⟩
    exact ⟨o, ho, by rw [hunder]⟩

/-! ## Objects -/

/-- A field that is there is visited. -/
lemma property_present_iff (hvisit : visit.Steady) {fields : Fields} {name : String} {w : Value}
    (hw : fields.lookup name = some w) {schema : Value} {part : Part String} :
    (property val visit fields name schema).resultAt scope here = .ok part ↔
      part.place = name ∧
        visit.answer scope here ⟨[.key name], [.key name], w, schema⟩ = .ok part.outcome := by
  unfold property
  rw [hw]
  exact child_ok_iff hvisit (by simp)

/-- What is made of a field that is missing: nothing without a default, a default with parts is
visited, and any other is taken in its typed shape. -/
inductive Filled (val : Validator) (visit : Visit) (scope : String) (here : List String)
    (name : String) (schema : Value) : Outcome → Prop
  | nothing :
      (val.declaredDefault schema).resultAt scope here = .ok none →
      Filled val visit scope here name schema ⟨none, schema, []⟩
  | visited {default : Value} {o : Outcome} :
      (val.declaredDefault schema).resultAt scope here = .ok (some default) →
      default.isContainer →
      visit.answer scope here ⟨[.key name], [.key name], default, schema⟩ = .ok o →
      Filled val visit scope here name schema { o with change := some (o.change.getD default) }
  | typed {default typed : Value} :
      (val.declaredDefault schema).resultAt scope here = .ok (some default) →
      ¬ default.isContainer →
      (val.typedDefault default schema).resultAt scope here = .ok typed →
      Filled val visit scope here name schema ⟨some typed, schema, []⟩

/-- A field that is missing is filled. -/
lemma property_missing_iff (hvisit : visit.Steady) {fields : Fields} {name : String}
    (hnone : fields.lookup name = none) {schema : Value} {part : Part String} :
    (property val visit fields name schema).resultAt scope here = .ok part ↔
      part.place = name ∧ Filled val visit scope here name schema part.outcome := by
  unfold property
  rw [hnone]
  dsimp only
  rw [bind_ok_iff (val.declaredDefault_steady schema) fun _ => by
    split
    · exact Steady.pure _
    · split
      · exact (child_steady hvisit _ _ _ _ _).bind fun _ => Steady.pure _
      · exact (val.typedDefault_steady _ schema).bind fun _ => Steady.pure _]
  constructor
  · rintro ⟨d, hd, h⟩
    split at h
    · obtain rfl := Except.ok.inj h
      exact ⟨rfl, .nothing hd⟩
    · split at h
      · rename_i hcontainer
        rw [bind_pure_ok_iff (child_steady hvisit _ _ _ _ _)] at h
        obtain ⟨part, hpart, rfl⟩ := h
        obtain ⟨hplace, hanswer⟩ := (child_ok_iff hvisit (by simp)).1 hpart
        exact ⟨hplace, .visited hd hcontainer hanswer⟩
      · rename_i hcontainer
        rw [bind_pure_ok_iff (val.typedDefault_steady _ schema)] at h
        obtain ⟨typed, htyped, rfl⟩ := h
        exact ⟨rfl, .typed hd hcontainer htyped⟩
  · obtain ⟨place, outcome⟩ := part
    rintro ⟨rfl, hfilled⟩
    cases hfilled with
    | nothing hd => exact ⟨none, hd, rfl⟩
    | @visited default o hd hcontainer hanswer =>
      refine ⟨_, hd, ?_⟩
      dsimp only
      rw [if_pos hcontainer, bind_pure_ok_iff (child_steady hvisit _ _ _ _ _)]
      exact ⟨⟨place, o⟩, (child_ok_iff hvisit (by simp)).2 ⟨rfl, hanswer⟩, rfl⟩
    | @typed default typed hd hcontainer htyped =>
      refine ⟨_, hd, ?_⟩
      dsimp only
      rw [if_neg hcontainer, bind_pure_ok_iff (val.typedDefault_steady _ schema)]
      exact ⟨typed, htyped, rfl⟩

/-- Where missing fields are not filled, nothing is made of them. -/
lemma Filled.eq_nothing (hfills : val.fills = false) {name : String} {schema : Value}
    {o : Outcome} (h : Filled val visit scope here name schema o) : o = ⟨none, schema, []⟩ := by
  have hdefault : (val.declaredDefault schema).resultAt scope here = .ok none := by
    simp [Validator.declaredDefault, hfills]
  cases h with
  | nothing => rfl
  | visited hd => simp [hdefault] at hd
  | typed hd => simp [hdefault] at hd

/-- How the keyword `properties` comes to a good end. -/
inductive PropertiesEnd (val : Validator) (visit : Visit) (scope : String) (here : List String) :
    Value → Value → Contribution → Prop
  | object {fields declared : Fields} {parts : List (Part String)} :
      List.Forall₂ (fun field part =>
        (property val visit fields field.1 field.2).resultAt scope here = .ok part) declared
        parts →
      PropertiesEnd val visit scope here (.object fields) (.object declared)
        ⟨Part.changeFields fields parts,
          some (.object (parts.map fun p => (p.place, p.outcome.applied))), Part.violations parts⟩
  | other {v : Value} {declared : Fields} :
      (∀ fields, v ≠ .object fields) →
      PropertiesEnd val visit scope here v (.object declared) .nothing

lemma properties_ok_iff (hvisit : visit.Steady) {v value : Value} {c : Contribution} :
    (properties val visit v value).resultAt scope here = .ok c ↔
      PropertiesEnd val visit scope here v value c := by
  have hparts : ∀ {fields declared : Fields}, ((declared.mapM fun (name, schema) =>
      property val visit fields name schema).Steady) :=
    Steady.mapM fun _ _ => property_steady hvisit _ _ _
  constructor
  · intro h
    unfold properties at h
    split at h
    · split at h
      · rw [bind_pure_ok_iff hparts] at h
        obtain ⟨parts, hall, rfl⟩ := h
        exact .object ((mapM_ok_iff fun _ => property_steady hvisit _ _ _).1 hall)
      · rename_i hobject
        obtain rfl := Except.ok.inj h
        exact .other hobject
    · simp at h
  · intro h
    cases h with
    | object hall =>
      rw [properties, bind_pure_ok_iff hparts]
      exact ⟨_, (mapM_ok_iff fun _ => property_steady hvisit _ _ _).2 hall, rfl⟩
    | other hobject =>
      unfold properties
      dsimp only
      split
      · exact absurd rfl (hobject _)
      · rfl

/-- Fields that are each visited against a schema of their own. -/
def FieldParts (visit : Visit) (scope : String) (here : List String)
    (schemaPath : List PathStep) (schema : Value) : Fields → List (Part String) → Prop :=
  List.Forall₂ fun field part => part.place = field.1 ∧
    visit.answer scope here ⟨[.key field.1], schemaPath, field.2, schema⟩ = .ok part.outcome

lemma fieldParts_iff (hvisit : visit.Steady) {schemaPath : List PathStep} {schema : Value}
    {fields : Fields} {parts : List (Part String)} :
    (fields.mapM fun (name, v) =>
        child visit name v schema [.key name] schemaPath).resultAt scope here = .ok parts ↔
      FieldParts visit scope here schemaPath schema fields parts := by
  rw [mapM_ok_iff fun _ => child_steady hvisit _ _ _ _ _]
  exact ⟨List.Forall₂.imp fun _ _ => (child_ok_iff hvisit (by simp)).1,
    List.Forall₂.imp fun _ _ => (child_ok_iff hvisit (by simp)).2⟩

lemma matchingFields_ok_iff (hvisit : visit.Steady) {fields : Fields} {source : String}
    {schema : Value} {parts : List (Part String)} :
    (matchingFields visit fields source schema).resultAt scope here = .ok parts ↔
      ∃ regex, Regex.ofText? source = some regex ∧
        FieldParts visit scope here [.key source] schema
          (fields.filter fun (name, _) => regex.isMatch name) parts := by
  rw [matchingFields, bind_ok_iff (Steady.pattern source)
    fun regex => Steady.mapM fun _ _ => child_steady hvisit _ _ _ _ _]
  exact exists_congr fun regex => and_congr (pattern_ok_iff source) (fieldParts_iff hvisit)

/-- How the keyword `patternProperties` comes to a good end: the parts come in groups, one for
each pattern. -/
inductive PatternPropertiesEnd (visit : Visit) (scope : String) (here : List String) :
    Value → Value → Contribution → Prop
  | object {fields patterns : Fields} {groups : List (List (Part String))} :
      List.Forall₂ (fun entry parts =>
        (matchingFields visit fields entry.1 entry.2).resultAt scope here = .ok parts) patterns
        groups →
      PatternPropertiesEnd visit scope here (.object fields) (.object patterns)
        ⟨Part.changeFields fields groups.flatten, none, Part.violations groups.flatten⟩
  | other {v : Value} {patterns : Fields} :
      (∀ fields, v ≠ .object fields) →
      PatternPropertiesEnd visit scope here v (.object patterns) .nothing

lemma patternProperties_ok_iff (hvisit : visit.Steady) {v value : Value} {c : Contribution} :
    (patternProperties visit v value).resultAt scope here = .ok c ↔
      PatternPropertiesEnd visit scope here v value c := by
  have hgroups : ∀ {fields patterns : Fields}, ((patterns.mapM fun (source, schema) =>
      matchingFields visit fields source schema).Steady) :=
    Steady.mapM fun _ _ => matchingFields_steady hvisit _ _ _
  constructor
  · intro h
    unfold patternProperties at h
    split at h
    · split at h
      · rw [bind_pure_ok_iff hgroups] at h
        obtain ⟨groups, hall, rfl⟩ := h
        exact .object ((mapM_ok_iff fun _ => matchingFields_steady hvisit _ _ _).1 hall)
      · rename_i hobject
        obtain rfl := Except.ok.inj h
        exact .other hobject
    · simp at h
  · intro h
    cases h with
    | object hall =>
      rw [patternProperties, bind_pure_ok_iff hgroups]
      exact ⟨_, (mapM_ok_iff fun _ => matchingFields_steady hvisit _ _ _).2 hall, rfl⟩
    | other hobject =>
      unfold patternProperties
      dsimp only
      split
      · exact absurd rfl (hobject _)
      · rfl

lemma extraFields_ok {fields schema extras : Fields}
    (h : (extraFields fields schema).resultAt scope here = .ok extras) {name : String}
    {w : Value} : (name, w) ∈ extras ↔ (name, w) ∈ fields ∧ IsExtra schema name := by
  unfold extraFields at h
  split at h
  · rename_i hsources
    obtain rfl := Except.ok.inj h
    simp [IsExtra, hsources]
  · rename_i hsources
    rw [bind_pure_ok_iff (Steady.pattern _)] at h
    obtain ⟨regex, hregex, rfl⟩ := h
    rw [pattern_ok_iff] at hregex
    have hne : patternSources schema ≠ [] := fun hnil => hsources hnil
    simp [IsExtra, hregex, hne, and_comm]

/-- How the keyword `additionalProperties` comes to a good end: the fields that it concerns are
visited, allowed or forbidden. -/
inductive AdditionalPropertiesEnd (visit : Visit) (scope : String) (here : List String)
    (schema : Fields) : Value → Value → Contribution → Prop
  | visited {fields extra extras : Fields} {parts : List (Part String)} :
      (extraFields fields schema).resultAt scope here = .ok extras →
      FieldParts visit scope here [] (.object extra) extras parts →
      AdditionalPropertiesEnd visit scope here schema (.object fields) (.object extra)
        ⟨Part.changeFields fields parts, none, Part.violations parts⟩
  | allowed {fields extras : Fields} :
      (extraFields fields schema).resultAt scope here = .ok extras →
      AdditionalPropertiesEnd visit scope here schema (.object fields) (.bool true) .nothing
  | absent {fields extras : Fields} :
      (extraFields fields schema).resultAt scope here = .ok extras → extras = [] →
      AdditionalPropertiesEnd visit scope here schema (.object fields) (.bool false) .nothing
  | forbidden {fields extras : Fields} :
      (extraFields fields schema).resultAt scope here = .ok extras → extras ≠ [] →
      AdditionalPropertiesEnd visit scope here schema (.object fields) (.bool false)
        (.ofMessage (extraMessage (Fields.keys extras) (patternSources schema)))
  | other {v value : Value} :
      (∀ fields, v ≠ .object fields) → ¬ (value.object?.isNone && value.bool?.isNone) →
      AdditionalPropertiesEnd visit scope here schema v value .nothing

/-- What stands in place of a schema for the rest, if it is none and does not forbid the rest,
allows it. -/
lemma eq_true_of_not_forbidding {value : Value}
    (hkind : ¬ (value.object?.isNone && value.bool?.isNone))
    (hobject : ∀ fields, value ≠ .object fields) (hforbid : value ≠ .bool false) :
    value = .bool true := by
  cases value with
  | bool allowed =>
    cases allowed with
    | true => rfl
    | false => exact absurd rfl hforbid
  | object fields => exact absurd rfl (hobject fields)
  | _ => simp [Value.object?, Value.bool?] at hkind

lemma additionalProperties_end (hvisit : visit.Steady) {schema : Fields} {v value : Value}
    {c : Contribution}
    (h : (additionalProperties visit schema v value).resultAt scope here = .ok c) :
    AdditionalPropertiesEnd visit scope here schema v value c := by
  have hvisits : ∀ extras : Fields, ((extras.mapM fun (name, v) =>
      child visit name v value [.key name] []).Steady) :=
    fun _ => Steady.mapM fun _ _ => child_steady hvisit _ _ _ _ _
  unfold additionalProperties at h
  split at h
  · simp at h
  rename_i hkind
  split at h
  · rename_i fields
    rw [bind_ok_iff (extraFields_steady _ _) fun _ => by
      split
      · exact (hvisits _).bind fun _ => Steady.pure _
      · split <;> exact Steady.pure _
      · exact Steady.pure _] at h
    obtain ⟨extras, hextras, h⟩ := h
    split at h
    · rw [bind_pure_ok_iff (hvisits _)] at h
      obtain ⟨parts, hparts, rfl⟩ := h
      exact .visited hextras ((fieldParts_iff hvisit).1 hparts)
    · split at h
      · rename_i hempty
        obtain rfl := Except.ok.inj h
        exact .absent hextras (List.isEmpty_iff.1 hempty)
      · rename_i hempty
        obtain rfl := Except.ok.inj h
        exact .forbidden hextras fun hnil => hempty (List.isEmpty_iff.2 hnil)
    · rename_i hobject hforbid
      obtain rfl := Except.ok.inj h
      obtain rfl := eq_true_of_not_forbidding hkind hobject hforbid
      exact .allowed hextras
  · rename_i hobject
    obtain rfl := Except.ok.inj h
    exact .other hobject hkind

lemma AdditionalPropertiesEnd.ok (hvisit : visit.Steady) {schema : Fields} {v value : Value}
    {c : Contribution} (h : AdditionalPropertiesEnd visit scope here schema v value c) :
    (additionalProperties visit schema v value).resultAt scope here = .ok c := by
  -- What is done about the fields that the keyword concerns is steady.
  have hrest : ∀ extras : Fields, (if extras.isEmpty then pure Contribution.nothing
      else pure (.ofMessage (extraMessage (Fields.keys extras) (patternSources schema))) :
        Walk SchemaError Contribution).Steady := by
    intro extras
    split <;> exact Steady.pure _
  cases h with
  | @visited _ extra _ _ hextras hparts =>
    have hvisits : ∀ extras : Fields, ((extras.mapM fun (name, v) =>
        child visit name v (.object extra) [.key name] []).Steady) :=
      fun _ => Steady.mapM fun _ _ => child_steady hvisit _ _ _ _ _
    rw [additionalProperties, if_neg (by simp [Value.object?])]
    exact (bind_ok_iff (extraFields_steady _ _) fun _ => (hvisits _).bind fun _ => Steady.pure _).2
      ⟨_, hextras, (bind_pure_ok_iff (hvisits _)).2 ⟨_, (fieldParts_iff hvisit).2 hparts, rfl⟩⟩
  | allowed hextras =>
    rw [additionalProperties, if_neg (by simp [Value.bool?])]
    exact (bind_ok_iff (extraFields_steady _ _) fun _ => Steady.pure _).2 ⟨_, hextras, rfl⟩
  | absent hextras hnil =>
    rw [additionalProperties, if_neg (by simp [Value.bool?])]
    refine (bind_ok_iff (extraFields_steady _ _) hrest).2 ⟨_, hextras, ?_⟩
    rw [if_pos (List.isEmpty_iff.2 hnil)]
    rfl
  | forbidden hextras hne =>
    rw [additionalProperties, if_neg (by simp [Value.bool?])]
    refine (bind_ok_iff (extraFields_steady _ _) hrest).2 ⟨_, hextras, ?_⟩
    rw [if_neg fun hempty => hne (List.isEmpty_iff.1 hempty)]
    rfl
  | other hobject hkind =>
    unfold additionalProperties
    rw [if_neg hkind]
    split
    · exact absurd rfl (hobject _)
    · rfl

lemma additionalProperties_ok_iff (hvisit : visit.Steady) {schema : Fields} {v value : Value}
    {c : Contribution} :
    (additionalProperties visit schema v value).resultAt scope here = .ok c ↔
      AdditionalPropertiesEnd visit scope here schema v value c :=
  ⟨additionalProperties_end hvisit, AdditionalPropertiesEnd.ok hvisit⟩

/-! ## Arrays -/

/-- Items with their indices that are each visited against a schema of their own. -/
def ItemParts (visit : Visit) (scope : String) (here : List String)
    (schemaPath : Nat → List PathStep) : List ((Value × Value) × Nat) → List (Part Nat) → Prop :=
  List.Forall₂ fun item part => part.place = item.2 ∧
    visit.answer scope here ⟨[.index item.2], schemaPath item.2, item.1.1, item.1.2⟩ =
      .ok part.outcome

lemma itemParts_ok_iff (hvisit : visit.Steady) {schemaPath : Nat → List PathStep}
    {pairs : List (Value × Value)} {start : Nat} {parts : List (Part Nat)} :
    (itemParts visit start schemaPath pairs).resultAt scope here = .ok parts ↔
      ItemParts visit scope here schemaPath (pairs.zipIdx start) parts := by
  induction pairs generalizing start parts with
  | nil =>
    rw [ItemParts, List.zipIdx_nil, List.forall₂_nil_left_iff]
    exact ⟨fun h => (Except.ok.inj h).symm, fun h => by rw [h]; rfl⟩
  | cons pair pairs ih =>
    obtain ⟨v, schema⟩ := pair
    rw [itemParts, bind_ok_iff (child_steady hvisit _ _ _ _ _)
      fun _ => (itemParts_steady hvisit _ _ _).bind fun _ => Steady.pure _, ItemParts,
      List.zipIdx_cons, List.forall₂_cons_left_iff]
    refine exists_congr fun part => ?_
    rw [child_ok_iff hvisit (by simp), bind_pure_ok_iff (itemParts_steady hvisit _ _ _),
      ← exists_and_left]
    refine exists_congr fun rest => ?_
    rw [ih, ItemParts, eq_comm (a := part :: rest)]

/-- How the keyword `items` comes to a good end: the first items are visited with a schema for
each, or all of them with one schema. -/
inductive ItemsEnd (visit : Visit) (scope : String) (here : List String) :
    Value → Value → Contribution → Prop
  | tuple {vs schemas : List Value} {parts : List (Part Nat)} :
      ItemParts visit scope here (fun i => [.index i]) (vs.zip schemas).zipIdx parts →
      ItemsEnd visit scope here (.array vs) (.array schemas)
        ⟨Part.changeItems vs parts,
          some (.array (parts.map (·.outcome.applied) ++ schemas.drop vs.length)),
          Part.violations parts⟩
  | visited {vs : List Value} {schema : Fields} {parts : List (Part Nat)} :
      ItemParts visit scope here (fun _ => []) (vs.map (·, .object schema)).zipIdx parts →
      ItemsEnd visit scope here (.array vs) (.object schema)
        ⟨Part.changeItems vs parts, parts.getLast?.map (·.outcome.applied),
          Part.violations parts⟩
  | other {v value : Value} :
      (∀ vs, v ≠ .array vs) → ¬ (value.object?.isNone && value.array?.isNone) →
      ItemsEnd visit scope here v value .nothing

lemma items_ok_iff (hvisit : visit.Steady) {v value : Value} {c : Contribution} :
    (items visit v value).resultAt scope here = .ok c ↔
      ItemsEnd visit scope here v value c := by
  constructor
  · intro h
    unfold items at h
    split at h
    · simp at h
    rename_i hkind
    split at h
    · split at h
      · rw [bind_pure_ok_iff (itemParts_steady hvisit _ _ _)] at h
        obtain ⟨parts, hparts, rfl⟩ := h
        exact .tuple ((itemParts_ok_iff hvisit).1 hparts)
      · rename_i hlist
        obtain ⟨schema, rfl⟩ : ∃ schema, value = .object schema := by
          cases value <;> simp_all [Value.object?, Value.array?]
        rw [bind_pure_ok_iff (itemParts_steady hvisit _ _ _)] at h
        obtain ⟨parts, hparts, rfl⟩ := h
        exact .visited ((itemParts_ok_iff hvisit).1 hparts)
    · rename_i hlist
      obtain rfl := Except.ok.inj h
      exact .other hlist hkind
  · intro h
    cases h with
    | tuple hparts =>
      rw [items, if_neg (by simp [Value.array?])]
      exact (bind_pure_ok_iff (itemParts_steady hvisit _ _ _)).2
        ⟨_, (itemParts_ok_iff hvisit).2 hparts, rfl⟩
    | visited hparts =>
      unfold items
      rw [if_neg (by simp [Value.object?])]
      exact (bind_pure_ok_iff (itemParts_steady hvisit _ _ _)).2
        ⟨_, (itemParts_ok_iff hvisit).2 hparts, rfl⟩
    | other hlist hkind =>
      unfold items
      rw [if_neg hkind]
      split
      · exact absurd rfl (hlist _)
      · rfl

/-- The message about items that are not allowed. -/
def extraItemsMessage (extras : List Value) : String :=
  let unexpected := Text.joinStrings ", " (extras.map Value.text)
  s!"Additional items are not allowed ({unexpected} were unexpected)"

/-- How the keyword `additionalItems` comes to a good end: the items that it concerns are
visited, allowed or forbidden. -/
inductive AdditionalItemsEnd (visit : Visit) (scope : String) (here : List String)
    (schema : Fields) : Value → Value → Contribution → Prop
  | visited {vs schemas : List Value} {later : Fields} {parts : List (Part Nat)} :
      (schema.lookup Keyword.items.name).bind Value.array? = some schemas →
      ItemParts visit scope here (fun _ => [])
        (((vs.drop schemas.length).map (·, .object later)).zipIdx schemas.length) parts →
      AdditionalItemsEnd visit scope here schema (.array vs) (.object later)
        ⟨Part.changeItems vs parts, none, Part.violations parts⟩
  | allowed {vs schemas : List Value} :
      (schema.lookup Keyword.items.name).bind Value.array? = some schemas →
      AdditionalItemsEnd visit scope here schema (.array vs) (.bool true) .nothing
  | absent {vs schemas : List Value} :
      (schema.lookup Keyword.items.name).bind Value.array? = some schemas →
      vs.drop schemas.length = [] →
      AdditionalItemsEnd visit scope here schema (.array vs) (.bool false) .nothing
  | forbidden {vs schemas : List Value} :
      (schema.lookup Keyword.items.name).bind Value.array? = some schemas →
      vs.drop schemas.length ≠ [] →
      AdditionalItemsEnd visit scope here schema (.array vs) (.bool false)
        (.ofMessage (extraItemsMessage (vs.drop schemas.length)))
  | other {v value : Value} :
      (∀ vs schemas, v = .array vs →
        (schema.lookup Keyword.items.name).bind Value.array? ≠ some schemas) →
      ¬ (value.object?.isNone && value.bool?.isNone) →
      AdditionalItemsEnd visit scope here schema v value .nothing

lemma additionalItems_end (hvisit : visit.Steady) {schema : Fields} {v value : Value}
    {c : Contribution} (h : (additionalItems visit schema v value).resultAt scope here = .ok c) :
    AdditionalItemsEnd visit scope here schema v value c := by
  unfold additionalItems at h
  split at h
  · simp at h
  rename_i hkind
  split at h
  · rename_i vs schemas hv hschemas
    obtain rfl := Value.array?_eq_some_iff.1 hv
    dsimp only at h
    split at h
    · rw [bind_pure_ok_iff (itemParts_steady hvisit _ _ _)] at h
      obtain ⟨parts, hparts, rfl⟩ := h
      exact .visited hschemas ((itemParts_ok_iff hvisit).1 hparts)
    · split at h
      · rename_i hempty
        obtain rfl := Except.ok.inj h
        exact .absent hschemas (List.isEmpty_iff.1 hempty)
      · rename_i hempty
        obtain rfl := Except.ok.inj h
        exact .forbidden hschemas fun hnil => hempty (List.isEmpty_iff.2 hnil)
    · rename_i hobject hforbid
      obtain rfl := Except.ok.inj h
      obtain rfl := eq_true_of_not_forbidding hkind hobject hforbid
      exact .allowed hschemas
  · rename_i hlists
    obtain rfl := Except.ok.inj h
    refine .other (fun vs schemas hv hschemas => ?_) hkind
    exact hlists vs schemas (Value.array?_eq_some_iff.2 hv) hschemas

lemma AdditionalItemsEnd.ok (hvisit : visit.Steady) {schema : Fields} {v value : Value}
    {c : Contribution} (h : AdditionalItemsEnd visit scope here schema v value c) :
    (additionalItems visit schema v value).resultAt scope here = .ok c := by
  cases h with
  | visited hschemas hparts =>
    simp only [additionalItems, Value.object?, Value.array?, hschemas, Option.isNone_some,
      Bool.false_and, Bool.false_eq_true, if_false]
    exact (bind_pure_ok_iff (itemParts_steady hvisit _ _ _)).2
      ⟨_, (itemParts_ok_iff hvisit).2 hparts, rfl⟩
  | allowed hschemas =>
    simp only [additionalItems, Value.object?, Value.bool?, Value.array?, hschemas,
      Option.isNone_some, Bool.and_false, Bool.false_eq_true, if_false]
    rfl
  | absent hschemas hnil =>
    simp only [additionalItems, Value.object?, Value.bool?, Value.array?, hschemas,
      Option.isNone_some, Bool.and_false, Bool.false_eq_true, if_false, hnil,
      List.isEmpty_nil, if_true]
    rfl
  | forbidden hschemas hne =>
    simp only [additionalItems, Value.object?, Value.bool?, Value.array?, hschemas,
      Option.isNone_some, Bool.and_false, Bool.false_eq_true, if_false]
    rw [if_neg fun hempty => hne (List.isEmpty_iff.1 hempty)]
    rfl
  | other hlists hkind =>
    unfold additionalItems
    rw [if_neg hkind]
    split
    · rename_i vs schemas hv hschemas
      exact absurd hschemas (hlists vs schemas (Value.array?_eq_some_iff.1 hv))
    · rfl

lemma additionalItems_ok_iff (hvisit : visit.Steady) {schema : Fields} {v value : Value}
    {c : Contribution} :
    (additionalItems visit schema v value).resultAt scope here = .ok c ↔
      AdditionalItemsEnd visit scope here schema v value c :=
  ⟨additionalItems_end hvisit, AdditionalItemsEnd.ok hvisit⟩

/-! ## Combinations -/

/-- Branches that are each visited. -/
def BranchOutcomes (visit : Visit) (scope : String) (here : List String) (v : Value) :
    List (Value × Nat) → List (Nat × Outcome) → Prop :=
  List.Forall₂ fun branch outcome => outcome.1 = branch.2 ∧
    visit.answer scope here ⟨[], [.index branch.2], v, branch.1⟩ = .ok outcome.2

lemma branches_ok_iff (hvisit : visit.Steady) {k : Keyword} {v value : Value}
    {outcomes : List (Nat × Outcome)} :
    (branches visit k v value).resultAt scope here = .ok outcomes ↔
      ∃ schemas, value = .array schemas ∧
        BranchOutcomes visit scope here v schemas.zipIdx outcomes := by
  have hbranch : ∀ (branch : Value × Nat) (outcome : Nat × Outcome),
      (visit v branch.1 >>= fun o => pure (branch.2, o.under [] [.index branch.2])).resultAt scope
          here = .ok outcome ↔
        outcome.1 = branch.2 ∧
          visit.answer scope here ⟨[], [.index branch.2], v, branch.1⟩ = .ok outcome.2 := by
    rintro ⟨s, i⟩ ⟨j, o⟩
    rw [bind_pure_ok_iff (hvisit v s), Visit.answer_eq_ok_iff]
    constructor
    · rintro ⟨o', ho', heq⟩
      obtain ⟨rfl, rfl⟩ := Prod.mk.inj heq
      exact ⟨rfl, o', ho', rfl⟩
    · rintro ⟨rfl, o', ho', heq⟩
      exact ⟨o', ho', Prod.ext rfl heq⟩
  rcases value.array_or with ⟨schemas, rfl⟩ | hnot
  · simp only [Value.array.injEq, exists_eq_left']
    rw [branches, mapM_ok_iff fun _ => (hvisit v _).bind fun _ => Steady.pure _]
    exact ⟨List.Forall₂.imp fun _ _ => (hbranch _ _).1,
      List.Forall₂.imp fun _ _ => (hbranch _ _).2⟩
  · constructor
    · intro h
      unfold branches at h
      split at h
      · exact absurd rfl (hnot _)
      · simp at h
    · rintro ⟨schemas, rfl, -⟩
      exact absurd rfl (hnot schemas)

lemma allOf_ok_iff (hvisit : visit.Steady) {v value : Value} {c : Contribution} :
    (allOf visit v value).resultAt scope here = .ok c ↔
      ∃ outcomes, (branches visit .allOf v value).resultAt scope here = .ok outcomes ∧
        c = if outcomes.isEmpty then .nothing
          else combine v (outcomes.map Prod.snd) (allViolations outcomes) := by
  rw [allOf, bind_ok_iff (branches_steady hvisit _ v value) fun _ => by
    split <;> exact Steady.pure _]
  refine exists_congr fun outcomes => and_congr_right fun _ => ?_
  split <;> exact ⟨fun h => (Except.ok.inj h).symm, fun h => congrArg Except.ok h.symm⟩

/-- How the keyword `anyOf` comes to a good end: no branch takes the value, or some do. -/
inductive AnyOfEnd (v : Value) (outcomes : List (Nat × Outcome)) : Contribution → Prop
  | none : passing outcomes = [] → AnyOfEnd v outcomes (noBranch v outcomes)
  | some :
      passing outcomes ≠ [] →
      AnyOfEnd v outcomes (combine v ((passing outcomes).map Prod.snd) [])

lemma anyOf_ok_iff (hvisit : visit.Steady) {v value : Value} {c : Contribution} :
    (anyOf visit v value).resultAt scope here = .ok c ↔
      ∃ outcomes, (branches visit .anyOf v value).resultAt scope here = .ok outcomes ∧
        AnyOfEnd v outcomes c := by
  rw [anyOf, bind_ok_iff (branches_steady hvisit _ v value) fun _ => by
    split <;> exact Steady.pure _]
  refine exists_congr fun outcomes => and_congr_right fun _ => ?_
  split
  · rename_i hpassing
    constructor
    · intro h
      obtain rfl := Except.ok.inj h
      exact .none hpassing
    · intro h
      cases h with
      | none => rfl
      | some hne => exact absurd hpassing hne
  · rename_i hpassing
    constructor
    · intro h
      obtain rfl := Except.ok.inj h
      exact .some hpassing
    · intro h
      cases h with
      | none hnil => exact absurd hnil hpassing
      | some => rfl

/-- The message about a value that several schemas take. -/
def severalMessage (v : Value) (schemas : List Value) : String :=
  let listed := Text.joinStrings ", " (schemas.map Value.text)
  s!"{v.text} is valid under each of {listed}"

/-- How the keyword `oneOf` comes to a good end: no branch takes the value, one does, or several
do. -/
inductive OneOfEnd (v value : Value) (outcomes : List (Nat × Outcome)) : Contribution → Prop
  | none : passing outcomes = [] → OneOfEnd v value outcomes (noBranch v outcomes)
  | one {i : Nat} {o : Outcome} :
      passing outcomes = [(i, o)] → OneOfEnd v value outcomes (.ofOutcome o)
  | several :
      passing outcomes ≠ [] → (∀ o, passing outcomes ≠ [o]) →
      OneOfEnd v value outcomes (.ofMessage (severalMessage v
        ((passing outcomes).filterMap fun o => (value.array?.getD [])[o.1]?)))

lemma oneOf_ok_iff (hvisit : visit.Steady) {v value : Value} {c : Contribution} :
    (oneOf visit v value).resultAt scope here = .ok c ↔
      ∃ outcomes, (branches visit .oneOf v value).resultAt scope here = .ok outcomes ∧
        OneOfEnd v value outcomes c := by
  rw [oneOf, bind_ok_iff (branches_steady hvisit _ v value) fun _ => by
    split <;> exact Steady.pure _]
  refine exists_congr fun outcomes => and_congr_right fun _ => ?_
  split
  · rename_i hpassing
    constructor
    · intro h
      obtain rfl := Except.ok.inj h
      exact .none hpassing
    · intro h
      cases h with
      | none => rfl
      | one hone => simp [hpassing] at hone
      | several hne => exact absurd hpassing hne
  · rename_i i o hpassing
    constructor
    · intro h
      obtain rfl := Except.ok.inj h
      exact .one hpassing
    · intro h
      cases h with
      | none hnil => simp [hpassing] at hnil
      | one hone =>
        obtain ⟨-, rfl⟩ : i = _ ∧ o = _ := by simpa [hpassing] using hone
        rfl
      | several _ hone => exact absurd hpassing (hone _)
  · rename_i hnil hone
    constructor
    · intro h
      obtain rfl := Except.ok.inj h
      exact .several hnil fun o => hone o.1 o.2
    · intro h
      cases h with
      | none hpassing => exact absurd hpassing hnil
      | one hpassing => exact absurd hpassing (hone _ _)
      | several => rfl

/-- How the keyword `not` comes to a good end: its schema takes the value, or it does not. -/
inductive NotEnd (v value : Value) (o : Outcome) : Contribution → Prop
  | taken :
      o.violations = [] →
      NotEnd v value o (.ofMessage s!"{value.text} is not allowed for {v.text}")
  | refused : o.violations ≠ [] → NotEnd v value o .nothing

lemma not_ok_iff (hvisit : visit.Steady) {v value : Value} {c : Contribution} :
    (not visit v value).resultAt scope here = .ok c ↔
      ∃ o, (visit v value).resultAt scope here = .ok o ∧ NotEnd v value o c := by
  rw [not, bind_ok_iff (hvisit v value) fun _ => by split <;> exact Steady.pure _]
  refine exists_congr fun o => and_congr_right fun _ => ?_
  constructor
  · intro h
    split at h
    · rename_i hempty
      obtain rfl := Except.ok.inj h
      exact .taken (List.isEmpty_iff.1 hempty)
    · rename_i hempty
      obtain rfl := Except.ok.inj h
      exact .refused fun hnil => hempty (List.isEmpty_iff.2 hnil)
  · intro h
    cases h with
    | taken hnil =>
      rw [if_pos (List.isEmpty_iff.2 hnil)]
      rfl
    | refused hne =>
      rw [if_neg fun hempty => hne (List.isEmpty_iff.1 hempty)]
      rfl

/-! ## Texts, constraints and references -/

lemma constraint_ok {messages : Constraint.Messages} (hmessages : Constraint.Inherent messages)
    {c : Contribution} (h : (constraint messages).resultAt scope here = .ok c) :
    ∃ ms, messages = .ok ms ∧ c = .ofViolations (ms.map .ofMessage) := by
  rw [constraint, bind_pure_ok_iff (Steady.ofExcept hmessages.1)] at h
  obtain ⟨ms, hms, rfl⟩ := h
  rw [resultAt_ofExcept] at hms
  exact ⟨ms, hms, rfl⟩

lemma pattern_ok {v value : Value} {c : Contribution}
    (h : (pattern v value).resultAt scope here = .ok c) :
    ∃ source, value = .string source ∧
      ((∃ s regex, v = .string s ∧ Regex.ofText? source = some regex ∧
          ((regex.isMatch s ∧ c = .nothing) ∨
            (¬ regex.isMatch s ∧ ∃ message, c = .ofMessage message))) ∨
        ((∀ s, v ≠ .string s) ∧ c = .nothing)) := by
  unfold pattern at h
  split at h
  · rename_i source
    refine ⟨source, rfl, ?_⟩
    split at h
    · rename_i s
      rw [bind_ok_iff (Steady.pattern source) fun _ => by split <;> exact Steady.pure _] at h
      obtain ⟨regex, hregex, h⟩ := h
      refine Or.inl ⟨s, regex, rfl, (pattern_ok_iff source).1 hregex, ?_⟩
      split at h
      · rename_i hmatch
        exact Or.inl ⟨hmatch, (Except.ok.inj h).symm⟩
      · rename_i hmatch
        exact Or.inr ⟨hmatch, _, (Except.ok.inj h).symm⟩
    · rename_i hstring
      exact Or.inr ⟨hstring, (Except.ok.inj h).symm⟩
  · simp at h

lemma format_ok {v value : Value} {c : Contribution}
    (h : (format val v value).resultAt scope here = .ok c) :
    ∃ name, value = .string name ∧
      ((∃ change, val.formats.check name v = .ok change ∧ c = ⟨change, none, []⟩) ∨
        ∃ fault message, val.formats.check name v = .error fault ∧
          c = .ofViolations
            [{ Violation.ofMessage message with cause := some (.format fault) }]) := by
  unfold format at h
  split at h
  · rename_i name
    refine ⟨name, rfl, ?_⟩
    split at h
    · rename_i change hcheck
      obtain rfl := Except.ok.inj h
      exact Or.inl ⟨change, hcheck, rfl⟩
    · rename_i fault hcheck
      obtain rfl := Except.ok.inj h
      exact Or.inr ⟨fault, _, hcheck, rfl⟩
  · simp at h

lemma ref_ok_iff {follow : Follow} (hfollow : follow.Steady) {v value : Value}
    {c : Contribution} :
    (ref follow v value).resultAt scope here = .ok c ↔
      ∃ reference o, value = .string reference ∧
        (follow v reference).resultAt scope here = .ok o ∧ c = .ofOutcome o := by
  constructor
  · intro h
    unfold ref at h
    split at h
    · rename_i reference
      rw [map_ok_iff (hfollow v reference)] at h
      obtain ⟨o, ho, rfl⟩ := h
      exact ⟨reference, o, rfl, ho, rfl⟩
    · simp at h
  · rintro ⟨reference, o, rfl, ho, rfl⟩
    exact (map_ok_iff (hfollow v reference)).2 ⟨o, ho, rfl⟩

end Applicator

end ApiContract
