/-
# What the fields of an object are converted with

The conversion of an object and its validation part the names of the fields each on their own:
into those that are declared, those that patterns cover, and those that are left over.  The
conversion does not look at the patterns, so a field that they cover is converted with the schema
for what is left over.  Every other field is converted just with the schema against which
`properties` or `additionalProperties` validate it.
-/
import ApiContract.Proofs.Parameter.Steady
import ApiContract.Proofs.Schema.Coverage
import ApiContract.Proofs.Value.Pairs

namespace ApiContract

/-- Setting the value of a key that is there changes one field. -/
lemma Fields.insert_eq_map {α : Type} {key : String} {fields : List (String × α)}
    (hnodup : (keys fields).Nodup) (hkey : key ∈ keys fields) (a : α) :
    insert key a fields = fields.map fun field => if field.1 = key then (key, a) else field := by
  induction fields with
  | nil => simp [keys] at hkey
  | cons field fields ih =>
    obtain ⟨k, b⟩ := field
    obtain ⟨hnot, hnodup⟩ := List.nodup_cons.1 hnodup
    by_cases hk : k = key
    · subst hk
      have hrest : ∀ field ∈ fields, (if field.1 = k then (k, a) else field) = field := by
        intro field hfield
        refine if_neg ?_
        rintro rfl
        exact hnot (mem_keys_of_mem hfield)
      rw [insert, if_pos rfl, List.map_cons, if_pos rfl]
      exact congrArg _ ((List.map_congr_left hrest).trans (List.map_id' fields)).symm
    · have hrest : key ∈ keys fields := (List.mem_cons.1 hkey).resolve_left (Ne.symm hk)
      rw [insert, if_neg hk, List.map_cons, if_neg hk, ih hnodup hrest]

namespace Coercion

open Walk Applicator

/-! ## The schema of a field -/

/-- The properties that a schema declares, with their schemas. -/
def declaredSchemas (schema : Fields) : Fields :=
  ((schema.lookup Keyword.properties.name).bind Value.object?).getD []

/-- The schema for fields that are left over, if there is one. -/
def leftOver? (schema : Fields) : Option Value :=
  (schema.lookup Keyword.additionalProperties.name).filter (·.object?.isSome)

/-- The schema that a field is converted with: the declared one, or else the one for what is left
over. -/
def subschema? (schema : Fields) (name : String) : Option Value :=
  ((declaredSchemas schema).lookup name).or (leftOver? schema)

/-- The keywords `properties` and `additionalProperties` ask for a field of an object with a
schema. -/
def Checks (schema fields : Fields) (name : String) (w sub : Value) : Prop :=
  (∃ declared, schema.lookup Keyword.properties.name = some declared ∧
    Keyword.Asks schema (.object fields) declared .properties
      ⟨[.key name], [.key name], w, sub⟩) ∨
  ∃ extra, schema.lookup Keyword.additionalProperties.name = some extra ∧
    Keyword.Asks schema (.object fields) extra .additionalProperties ⟨[.key name], [], w, sub⟩

/-- A field that is not declared and not left over either, since patterns cover it, beside a
schema for what is left over. -/
def CoveredBeside (schema : Fields) (name : String) (sub : Value) : Prop :=
  name ∉ declaredNames schema ∧ ¬ IsExtra schema name ∧ leftOver? schema = some sub

variable {schema fields : Fields} {name : String} {w sub : Value}

lemma declaredNames_eq (schema : Fields) :
    declaredNames schema = Fields.keys (declaredSchemas schema) := by
  rw [declaredNames, declaredSchemas]
  cases (schema.lookup Keyword.properties.name).bind Value.object? <;> rfl

lemma leftOver?_eq_some_iff :
    leftOver? schema = some sub ↔ ∃ extra, sub = .object extra ∧
      schema.lookup Keyword.additionalProperties.name = some (.object extra) := by
  rw [leftOver?, Option.filter_eq_some_iff]
  constructor
  · rintro ⟨hlookup, hobject⟩
    cases sub with
    | object extra => exact ⟨extra, rfl, hlookup⟩
    | _ => simp [Value.object?] at hobject
  · rintro ⟨extra, rfl, hlookup⟩
    exact ⟨hlookup, rfl⟩

lemma exists_properties_of_declared (h : (declaredSchemas schema).lookup name = some sub) :
    ∃ declared, schema.lookup Keyword.properties.name = some (.object declared) ∧
      (name, sub) ∈ declared := by
  rw [declaredSchemas] at h
  cases hproperties : (schema.lookup Keyword.properties.name).bind Value.object? with
  | none => simp [hproperties] at h
  | some declared =>
    rw [hproperties] at h
    obtain ⟨value, hvalue, hobject⟩ := Option.bind_eq_some_iff.1 hproperties
    obtain rfl := Value.object?_eq_some_iff.1 hobject
    exact ⟨declared, hvalue, Fields.mem_of_lookup h⟩

/-- The keyword `properties` asks for a field with the schema that is declared for it. -/
lemma checks_declared_iff (hdeclared : (declaredNames schema).Nodup)
    (hfield : fields.lookup name = some w) :
    (∃ declared, schema.lookup Keyword.properties.name = some declared ∧
      Keyword.Asks schema (.object fields) declared .properties
        ⟨[.key name], [.key name], w, sub⟩) ↔ (declaredSchemas schema).lookup name = some sub := by
  rw [declaredNames_eq] at hdeclared
  constructor
  · rintro ⟨_, hlookup, ha⟩
    cases ha with
    | @property _ declared _ _ _ hmem _ =>
      have hschemas : declaredSchemas schema = declared := by
        rw [declaredSchemas, hlookup]
        rfl
      rw [hschemas] at hdeclared ⊢
      exact Fields.lookup_of_mem hdeclared hmem
  · intro hlookup
    obtain ⟨declared, hvalue, hmem⟩ := exists_properties_of_declared hlookup
    exact ⟨_, hvalue, .property hmem hfield⟩

/-- The keyword `additionalProperties` asks for the fields that are left over. -/
lemma checks_extra_iff (hfield : (name, w) ∈ fields) :
    (∃ extra, schema.lookup Keyword.additionalProperties.name = some extra ∧
      Keyword.Asks schema (.object fields) extra .additionalProperties
        ⟨[.key name], [], w, sub⟩) ↔ leftOver? schema = some sub ∧ IsExtra schema name := by
  rw [leftOver?_eq_some_iff]
  constructor
  · rintro ⟨_, hlookup, ha⟩
    cases ha with
    | extra _ hextra => exact ⟨⟨_, rfl, hlookup⟩, hextra⟩
  · rintro ⟨⟨extra, rfl, hlookup⟩, hextra⟩
    exact ⟨_, hlookup, .extra hfield hextra⟩

/-- The schema of a field is the one that validation asks for, unless patterns cover the field. -/
lemma subschema?_eq_some_iff (hdeclared : (declaredNames schema).Nodup)
    (hkeys : (Fields.keys fields).Nodup) (hfield : (name, w) ∈ fields) :
    subschema? schema name = some sub ↔
      Checks schema fields name w sub ∨ CoveredBeside schema name sub := by
  have hnames : name ∉ declaredNames schema ↔ (declaredSchemas schema).lookup name = none := by
    rw [declaredNames_eq, Fields.lookup_eq_none_iff_not_mem]
  rw [Checks, checks_declared_iff hdeclared (Fields.lookup_of_mem hkeys hfield),
    checks_extra_iff hfield, CoveredBeside, hnames, subschema?]
  have hextra : IsExtra schema name → (declaredSchemas schema).lookup name = none :=
    fun h => hnames.1 h.1
  generalize (declaredSchemas schema).lookup name = found at *
  cases found with
  | none => simp; tauto
  | some s => simp_all

/-! ## Conversion field by field -/

section

variable {convert : Conversion} {scope : String} {here : List String} {declared : Fields}

/-- A value and what it is converted to; without a schema it stays. -/
def Converts (convert : Conversion) (scope : String) (here : List String) (sub? : Option Value)
    (v v' : Value) : Prop :=
  match sub? with
  | some sub => (convert sub v).resultAt scope here = .ok v'
  | none => v' = v

/-- Fields and what they are converted to, with the schemas that some names have. -/
def FieldsConvert (convert : Conversion) (scope : String) (here : List String)
    (sub? : String → Option Value) : Fields → Fields → Prop :=
  List.Forall₂ fun field field' => field'.1 = field.1 ∧
    Converts convert scope here (sub? field.1) field.2 field'.2

lemma FieldsConvert.keys_eq {sub? : String → Option Value} {fields fields' : Fields}
    (h : FieldsConvert convert scope here sub? fields fields') :
    Fields.keys fields' = Fields.keys fields := by
  induction h with
  | nil => rfl
  | cons hfield _ ih => exact congrArg₂ List.cons hfield.1 ih

lemma declaredFields_ok (hsteady : ∀ schema v, (convert schema v).Steady)
    (hdeclared : (Fields.keys declared).Nodup) {fields fields' : Fields}
    (hkeys : (Fields.keys fields).Nodup)
    (h : (declaredFields convert declared fields).resultAt scope here = .ok fields') :
    FieldsConvert convert scope here (declared.lookup ·) fields fields' := by
  induction declared generalizing fields with
  | nil =>
    obtain rfl := Except.ok.inj h
    exact List.forall₂_same.2 fun field _ => ⟨rfl, rfl⟩
  | cons entry declared ih =>
    obtain ⟨key, sub⟩ := entry
    obtain ⟨hfresh, hdeclared⟩ := List.nodup_cons.1 hdeclared
    rw [declaredFields] at h
    split at h
    · rename_i v hv
      obtain ⟨v', hconvert, h⟩ := (bind_ok_iff (hsteady _ _)
        fun _ => declaredFields_steady hsteady _ _).1 h
      have hkey : key ∈ Fields.keys fields := Fields.mem_keys_of_mem (Fields.mem_of_lookup hv)
      have hinsert := Fields.insert_eq_map hkeys hkey v'
      have hrest := ih hdeclared (Fields.keys_insert hkey v' ▸ hkeys) h
      rw [hinsert, FieldsConvert, List.forall₂_map_left_iff] at hrest
      refine forall₂_imp_mem hrest ?_
      rintro ⟨k, u⟩ hmem field' - ⟨hname, hfield⟩
      by_cases hk : k = key
      · -- The key comes once, so that it is not converted again.
        subst hk
        obtain rfl : u = v := Option.some.inj ((Fields.lookup_of_mem hkeys hmem).symm.trans hv)
        have hnone : declared.lookup k = none := Fields.lookup_eq_none_iff_not_mem.2 hfresh
        simp only [if_true] at hname hfield
        rw [hnone] at hfield
        refine ⟨hname, ?_⟩
        change Converts convert scope here (((k, sub) :: declared).lookup k) u field'.2
        rw [List.lookup_cons_self, show field'.2 = v' from hfield]
        exact hconvert
      · simp only [hk, if_false] at hname hfield
        refine ⟨hname, ?_⟩
        change Converts convert scope here (((key, sub) :: declared).lookup k) u field'.2
        rwa [List.lookup_cons, beq_false_of_ne hk]
    · rename_i hnone
      refine forall₂_imp_mem (ih hdeclared hkeys h) ?_
      rintro ⟨k, u⟩ hmem field' - ⟨hname, hfield⟩
      have hk : k ≠ key := by
        rintro rfl
        exact Fields.lookup_eq_none_iff_not_mem.1 hnone (Fields.mem_keys_of_mem hmem)
      refine ⟨hname, ?_⟩
      change Converts convert scope here (((key, sub) :: declared).lookup k) u field'.2
      rwa [List.lookup_cons, beq_false_of_ne hk]

lemma declaredFields_error (hsteady : ∀ schema v, (convert schema v).Steady)
    (hdeclared : (Fields.keys declared).Nodup) {fields : Fields}
    (hkeys : (Fields.keys fields).Nodup) {e : CoercionError}
    (h : (declaredFields convert declared fields).resultAt scope here = .error e) :
    ∃ field ∈ fields, ∃ sub, declared.lookup field.1 = some sub ∧
      (convert sub field.2).resultAt scope here = .error e := by
  induction declared generalizing fields with
  | nil => cases h
  | cons entry declared ih =>
    obtain ⟨key, sub⟩ := entry
    obtain ⟨hfresh, hdeclared⟩ := List.nodup_cons.1 hdeclared
    -- A field that is converted later has another key.
    have hlater {field : String × Value} {sub' : Value}
        (hlookup : declared.lookup field.1 = some sub') :
        field.1 ≠ key ∧ ((key, sub) :: declared).lookup field.1 = some sub' := by
      have hne : field.1 ≠ key := by
        rintro rfl
        exact hfresh (Fields.mem_keys_of_mem (Fields.mem_of_lookup hlookup))
      refine ⟨hne, ?_⟩
      rwa [List.lookup_cons, beq_false_of_ne hne]
    rw [declaredFields] at h
    split at h
    · rename_i v hv
      rw [resultAt_bind (hsteady _ _) fun _ => declaredFields_steady hsteady _ _] at h
      rcases Except.bind_eq_error_iff.1 h with hconvert | ⟨v', -, h⟩
      · exact ⟨(key, v), Fields.mem_of_lookup hv, sub, List.lookup_cons_self, hconvert⟩
      · have hkey : key ∈ Fields.keys fields := Fields.mem_keys_of_mem (Fields.mem_of_lookup hv)
        obtain ⟨field, hfield, sub', hlookup, hconvert⟩ :=
          ih hdeclared (Fields.keys_insert hkey v' ▸ hkeys) h
        obtain ⟨hne, hlookup⟩ := hlater hlookup
        rw [Fields.insert_eq_map hkeys hkey] at hfield
        obtain ⟨field₀, hmem, rfl⟩ := List.mem_map.1 hfield
        split at hne
        · exact absurd rfl hne
        · rename_i hother
          rw [if_neg hother] at hlookup hconvert
          exact ⟨field₀, hmem, sub', hlookup, hconvert⟩
    · obtain ⟨field, hfield, sub', hlookup, hconvert⟩ := ih hdeclared hkeys h
      exact ⟨field, hfield, sub', (hlater hlookup).2, hconvert⟩

lemma restOfFields_steady (hsteady : ∀ schema v, (convert schema v).Steady) (declared : Fields)
    (additional : Value) (field : String × Value) :
    (if Fields.has field.1 declared then return field
      else return (field.1, ← convert additional field.2) :
        Walk CoercionError (String × Value)).Steady := by
  split
  · exact Steady.pure _
  · exact (hsteady _ _).bind fun _ => Steady.pure _

/-- What the conversion of an object makes of its fields. -/
lemma fields_ok (hsteady : ∀ schema v, (convert schema v).Steady) {schema fields : Fields}
    {v : Value} (hdeclared : (declaredNames schema).Nodup) (hkeys : (Fields.keys fields).Nodup)
    (h : (Coercion.fields convert (.object schema) fields).resultAt scope here = .ok v) :
    ∃ fields', v = .object fields' ∧
      FieldsConvert convert scope here (subschema? schema) fields fields' := by
  have hschemas : (((Value.object schema).get? "properties").bind Value.object?).getD [] =
    declaredSchemas schema := rfl
  rw [Coercion.fields, hschemas] at h
  obtain ⟨fields₁, hfields₁, h⟩ := (bind_ok_iff (declaredFields_steady hsteady _ _) fun _ => by
    split
    · exact Steady.pure _
    · exact (Steady.mapM fun _ _ => restOfFields_steady hsteady _ _ _).bind fun _ =>
        Steady.pure _).1 h
  have hconverted := declaredFields_ok hsteady (declaredNames_eq schema ▸ hdeclared) hkeys hfields₁
  split at h
  · rename_i hnone
    obtain rfl := Except.ok.inj h
    refine ⟨fields₁, rfl, hconverted.imp fun field field' hfield => ?_⟩
    rwa [subschema?, show leftOver? schema = none from hnone, Option.or_none]
  · rename_i additional hadditional
    have hsteady' := restOfFields_steady hsteady (declaredSchemas schema) additional
    obtain ⟨fields', hrest, rfl⟩ :=
      (bind_pure_ok_iff (Steady.mapM fun field _ => hsteady' field)).1 h
    refine ⟨fields', rfl, (forall₂_comp hconverted ((mapM_ok_iff hsteady').1 hrest)).imp ?_⟩
    rintro ⟨name, w⟩ field' ⟨⟨name₁, w₁⟩, ⟨hname, hdeclared⟩, hleft⟩
    change name₁ = name at hname
    change Converts convert scope here ((declaredSchemas schema).lookup name) w w₁ at hdeclared
    change field'.1 = name ∧ Converts convert scope here (subschema? schema name) w field'.2
    subst hname
    rw [subschema?, show leftOver? schema = some additional from hadditional]
    rcases hlookup : (declaredSchemas schema).lookup name₁ with _ | sub
    · rw [hlookup] at hdeclared
      obtain rfl : w₁ = w := hdeclared
      rw [Fields.has, hlookup, Option.isSome_none, if_neg (by simp),
        bind_pure_ok_iff (hsteady _ _)] at hleft
      obtain ⟨w', hconvert, rfl⟩ := hleft
      exact ⟨rfl, hconvert⟩
    · rw [hlookup] at hdeclared
      rw [Fields.has, hlookup, Option.isSome_some, if_pos rfl] at hleft
      obtain rfl := Except.ok.inj hleft
      exact ⟨rfl, hdeclared⟩

/-- An error in the conversion of an object is one in the conversion of a field. -/
lemma fields_error (hsteady : ∀ schema v, (convert schema v).Steady) {schema fields : Fields}
    {e : CoercionError} (hdeclared : (declaredNames schema).Nodup)
    (hkeys : (Fields.keys fields).Nodup)
    (h : (Coercion.fields convert (.object schema) fields).resultAt scope here = .error e) :
    ∃ field ∈ fields, ∃ sub, subschema? schema field.1 = some sub ∧
      (convert sub field.2).resultAt scope here = .error e := by
  have hschemas : (((Value.object schema).get? "properties").bind Value.object?).getD [] =
    declaredSchemas schema := rfl
  rw [declaredNames_eq] at hdeclared
  rw [Coercion.fields, hschemas, resultAt_bind (declaredFields_steady hsteady _ _) fun _ => by
    split
    · exact Steady.pure _
    · exact (Steady.mapM fun _ _ => restOfFields_steady hsteady _ _ _).bind fun _ =>
        Steady.pure _] at h
  rcases Except.bind_eq_error_iff.1 h with hfields | ⟨fields₁, hfields₁, h⟩
  · obtain ⟨field, hfield, sub, hlookup, hconvert⟩ :=
      declaredFields_error hsteady hdeclared hkeys hfields
    exact ⟨field, hfield, sub, by rw [subschema?, hlookup, Option.some_or], hconvert⟩
  · have hconverted := declaredFields_ok hsteady hdeclared hkeys hfields₁
    split at h
    · cases h
    · rename_i additional hadditional
      have hsteady' := restOfFields_steady hsteady (declaredSchemas schema) additional
      rw [resultAt_bind (Steady.mapM fun field _ => hsteady' field) fun _ => Steady.pure _,
        resultAt_mapM _ hsteady'] at h
      rcases Except.bind_eq_error_iff.1 h with hrest | ⟨_, -, ⟨⟩⟩
      obtain ⟨⟨name, w₁⟩, hfield₁, hleft⟩ := Except.exists_of_mapM_eq_error hrest
      obtain ⟨⟨name', w⟩, hfield, hname, hdeclared⟩ := exists_left_of_forall₂ hconverted hfield₁
      change name = name' at hname
      change Converts convert scope here ((declaredSchemas schema).lookup name') w w₁ at hdeclared
      subst hname
      refine ⟨_, hfield, additional, ?_⟩
      rw [subschema?, show leftOver? schema = some additional from hadditional]
      dsimp only at hleft ⊢
      rcases hlookup : (declaredSchemas schema).lookup name with _ | sub
      · rw [hlookup] at hdeclared
        obtain rfl : w₁ = w := hdeclared
        rw [Fields.has, hlookup, Option.isSome_none, if_neg (by simp),
          resultAt_bind (hsteady _ _) fun _ => Steady.pure _] at hleft
        rcases Except.bind_eq_error_iff.1 hleft with hconvert | ⟨_, -, ⟨⟩⟩
        exact ⟨rfl, hconvert⟩
      · rw [Fields.has, hlookup, Option.isSome_some, if_pos rfl] at hleft
        cases hleft

end

/-! ## Conversion and validation -/

/-- A node of its own whose values are objects: without a reference, no union, and without a type
or of the type of objects. -/
structure IsObjectNode (schema : Fields) : Prop where
  /-- The node is no reference. -/
  reference?_eq : Validator.reference? (.object schema) = none
  /-- The node is no union. -/
  unionBranches?_eq : unionBranches? (.object schema) = none
  /-- The node is for objects. -/
  type_eq : schema.lookup "type" = none ∨ schema.lookup "type" = some (.string "object")

lemma convert_of_isObjectNode {val : Validator} {n : Nat} {schema fields : Fields}
    (hnode : IsObjectNode schema) :
    convert val (n + 1) (.object schema) (.object fields) =
      Coercion.fields (convert val n) (.object schema) fields := by
  rw [convert, hnode.reference?_eq, hnode.unionBranches?_eq]
  rcases hnode.type_eq with htype | htype
  · rw [show (Value.object schema).get? "type" = none from htype]
    rfl
  · rw [show (Value.object schema).get? "type" = some (.string "object") from htype]
    rfl

/-- **Fields are converted with the schemas they are validated against**, those apart that
patterns cover beside a schema for what is left over: a field that comes out of the conversion of
an object has been converted with a schema just if `properties` or `additionalProperties` asks for
it with that schema in the object that comes out, or if it is covered so; and a field for which
the conversion fails is one of these. -/
theorem convert_object {val : Validator} {n : Nat} {scope : String} {here : List String}
    {schema fields : Fields} (hnode : IsObjectNode schema)
    (hdeclared : (declaredNames schema).Nodup) (hkeys : (Fields.keys fields).Nodup) :
    (∀ v, (convert val (n + 1) (.object schema) (.object fields)).resultAt scope here = .ok v →
      ∃ fields', v = .object fields' ∧ List.Forall₂ (fun field field' => field'.1 = field.1 ∧
        ((∃ sub, (Checks schema fields' field'.1 field'.2 sub ∨ CoveredBeside schema field.1 sub) ∧
            (convert val n sub field.2).resultAt scope here = .ok field'.2) ∨
          (∀ sub, ¬ Checks schema fields' field'.1 field'.2 sub ∧
            ¬ CoveredBeside schema field.1 sub) ∧ field'.2 = field.2)) fields fields') ∧
    ∀ e, (convert val (n + 1) (.object schema) (.object fields)).resultAt scope here = .error e →
      ∃ name w sub, (name, w) ∈ fields ∧
        (Checks schema fields name w sub ∨ CoveredBeside schema name sub) ∧
        (convert val n sub w).resultAt scope here = .error e := by
  have hsteady := convert_steady val n
  rw [convert_of_isObjectNode hnode]
  refine ⟨fun v h => ?_, fun e h => ?_⟩
  · obtain ⟨fields', rfl, hfields⟩ := fields_ok hsteady hdeclared hkeys h
    have hkeys' : (Fields.keys fields').Nodup := hfields.keys_eq ▸ hkeys
    refine ⟨fields', rfl, (forall₂_imp_mem hfields.flip ?_).flip⟩
    rintro ⟨name', w'⟩ hmem ⟨name, w⟩ - ⟨hname, hconvert⟩
    change name' = name at hname
    subst hname
    have hsub (sub : Value) : subschema? schema name' = some sub ↔
        Checks schema fields' name' w' sub ∨ CoveredBeside schema name' sub :=
      subschema?_eq_some_iff hdeclared hkeys' hmem
    rcases hfound : subschema? schema name' with _ | sub
    · rw [hfound] at hconvert
      refine ⟨rfl, Or.inr ⟨fun sub => not_or.1 fun hchecks => ?_, hconvert⟩⟩
      simp [(hsub sub).2 hchecks] at hfound
    · rw [hfound] at hconvert
      exact ⟨rfl, Or.inl ⟨sub, (hsub sub).1 hfound, hconvert⟩⟩
  · obtain ⟨⟨name, w⟩, hfield, sub, hsub, hconvert⟩ := fields_error hsteady hdeclared hkeys h
    exact ⟨name, w, sub, hfield, (subschema?_eq_some_iff hdeclared hkeys hfield).1 hsub, hconvert⟩

end Coercion

namespace Limits

/-- A schema with the name of a type. -/
def typed (type : String) : Value := .object [("type", .string type)]

/-- Numbers, beside notes of any name with a prefix. -/
def schema : Fields :=
  [("properties", .object [("page", typed "integer")]),
    ("patternProperties", .object [("^x-", typed "string")]),
    ("additionalProperties", typed "integer")]

/-- The conversion to the schema. -/
def converted (fields : Fields) : Except CoercionError Value :=
  (Coercion.convert Dialect.oas3.alone 2 (.object schema) (.object fields)).resultAt "" []

/-- Two numbers as they arrive, one of them under a declared name. -/
def fields : Fields := [("page", .string "2"), ("size", .string "50")]

end Limits

/-- A declared field and one that is left over are converted with schemas that validation asks
for. -/
theorem limits_are_converted :
    ∃ page size, Limits.converted Limits.fields = .ok (.object [("page", page), ("size", size)]) ∧
      (∃ sub, Coercion.Checks Limits.schema [("page", page), ("size", size)] "page" page sub) ∧
      ∃ sub, Coercion.Checks Limits.schema [("page", page), ("size", size)] "size" size sub := by
  have hnode : Coercion.IsObjectNode Limits.schema := ⟨rfl, rfl, Or.inl rfl⟩
  have hextra : IsExtra Limits.schema "size" := by
    have hmatch : (Regex.ofText?
        (Text.joinStrings "|" (Applicator.patternSources Limits.schema))).all
          fun regex => !regex.isMatch "size" := by decide
    exact ⟨by decide, Or.inr fun regex hregex => by simpa [hregex] using hmatch⟩
  have hok : Limits.converted Limits.fields =
      .ok (.object [("page", .integer 2), ("size", .integer 50)]) := by rfl
  refine ⟨_, _, hok, ?_⟩
  obtain ⟨_, ⟨⟩, hfields⟩ := (Coercion.convert_object hnode (by decide) (by decide)).1 _ hok
  obtain ⟨⟨-, hpage⟩, hrest⟩ := List.forall₂_cons.1 hfields
  obtain ⟨⟨-, hsize⟩, -⟩ := List.forall₂_cons.1 hrest
  constructor
  · rcases hpage with ⟨sub, hchecks | hcovered, -⟩ | ⟨-, ⟨⟩⟩
    · exact ⟨sub, hchecks⟩
    · exact absurd (by decide) hcovered.1
  · rcases hsize with ⟨sub, hchecks | hcovered, -⟩ | ⟨-, ⟨⟩⟩
    · exact ⟨sub, hchecks⟩
    · exact absurd hextra hcovered.2.1

/-- **A note is taken for a number.**  Its name is covered by a pattern whose schema is for texts,
so it is no field that is left over; but it is converted with the schema for those, which fails,
or makes of a valid text a number that the pattern does not allow. -/
theorem note_is_converted_as_left_over :
    Regex.matchesAlone "^x-" "x-note" ∧
    (Limits.converted [("x-note", .string "abc")]).toOption.isNone ∧
    (Limits.converted [("x-note", .string "5")]).toOption.any
      (fun v => (v.get? "x-note").any Value.isNumber ∧
        (Dialect.oas3.alone.validate v (.object Limits.schema)).toOption.isNone) ∧
    (Dialect.oas3.alone.validate (.object [("x-note", .string "abc")])
      (.object Limits.schema)).toOption.isSome ∧
    (Dialect.oas3.alone.validate (.object [("x-note", .string "5")])
      (.object Limits.schema)).toOption.isSome := by
  decide

end ApiContract
