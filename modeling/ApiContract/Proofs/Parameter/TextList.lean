/-
# Parameters that are lists of texts

A list of texts is not converted and satisfies its schema as it is, so the value of a parameter is
the list that its text is taken apart into.
-/
import ApiContract.Proofs.Parameter.Stages
import ApiContract.Proofs.Parameter.Steady
import ApiContract.Proofs.Schema.References

namespace ApiContract

open Walk

variable {val : Validator} {schema : Value} {n : Nat} {scope : String} {here : List String}

lemma Walk.run_eq_resultAt {ε α : Type} (val : Validator) (walk : Walk ε α) :
    val.run walk = walk.resultAt val.store.baseUri [] :=
  rfl

/-! ## Conversion -/

namespace Coercion

open Validator (reference? keywordsOf lookup_eq_none_of_not_mem)

lemma reference?_eq_none {fields : Fields} (h : fields.lookup Keyword.ref.name = none) :
    reference? (.object fields) = none := by
  simp [reference?, Value.get?, h]

/-- The search for a type looks through references. -/
lemma looksThrough_typeOf (store : Store) : LooksThrough store (typeOf store) where
  steady := typeOf_steady store
  bottom schema scope here a := by
    rw [typeOf, resultAt_tooDeep]
    simp
  reference n schema reference href := by rw [typeOf, href]

/-- The conversion of a value looks through references. -/
lemma looksThrough_convert (val : Validator) (v : Value) :
    LooksThrough val.store fun n schema => convert val n schema v where
  steady n schema := convert_steady val n schema v
  bottom _ _ _ _ h := by cases h
  reference n schema reference href := by rw [convert, href]

lemma typeOf_of_type {store : Store} {fields : Fields} {type : String}
    (href : reference? (.object fields) = none)
    (htype : fields.lookup Keyword.type.name = some (.string type)) :
    typeOf store (n + 1) (.object fields) = pure type := by
  rw [typeOf, href, show (Value.object fields).get? "type" = some (.string type) from htype]

lemma convert_of_type {fields : Fields} {type : String} {v : Value}
    (href : reference? (.object fields) = none)
    (htype : fields.lookup Keyword.type.name = some (.string type)) :
    convert val (n + 1) (.object fields) v = ofType (convert val n) (.object fields) type v := by
  have hget : (Value.object fields).get? "type" = some (.string type) := htype
  have hunion : unionBranches? (.object fields) = none := by
    simp [unionBranches?, hget]
  rw [convert, href, hunion, hget]

lemma convert_text (hschema : IsTextSchema schema) (text : String) :
    convert val (n + 1) schema (.string text) = pure (.string text) := by
  obtain ⟨fields, rfl, hkeywords⟩ := hschema
  have htype : fields.lookup Keyword.type.name = some (.string "string") :=
    Keyword.mem_keywordsOf.1 (by simp [hkeywords])
  rw [convert_of_type (reference?_eq_none (lookup_eq_none_of_not_mem (by simp [hkeywords]))) htype]
  rfl

lemma typeOf_list {store : Store} {fields : Fields} {item : Value}
    (hkeywords : keywordsOf fields = [(.type, .string "array"), (.items, item)]) :
    typeOf store (n + 1) (.object fields) = pure "array" :=
  typeOf_of_type (reference?_eq_none (lookup_eq_none_of_not_mem (by simp [hkeywords])))
    (Keyword.mem_keywordsOf.1 (by simp [hkeywords]))

/-- A schema for lists converts the items of a list one by one. -/
lemma convert_list {fields item : Fields}
    (hkeywords : keywordsOf fields = [(.type, .string "array"), (.items, .object item)])
    (vs : List Value) :
    (convert val (n + 1) (.object fields) (.array vs)).resultAt scope here =
      Value.array <$> vs.mapM fun v => (convert val n (.object item) v).resultAt scope here := by
  have htype : fields.lookup Keyword.type.name = some (.string "array") :=
    Keyword.mem_keywordsOf.1 (by simp [hkeywords])
  have hitems : fields.lookup Keyword.items.name = some (.object item) :=
    Keyword.mem_keywordsOf.1 (by simp [hkeywords])
  have hsingle : ((Value.object fields).get? "items").filter (·.object?.isSome) =
      some (.object item) := by
    rw [show (Value.object fields).get? "items" = some (.object item) from hitems]
    rfl
  rw [convert_of_type (reference?_eq_none (lookup_eq_none_of_not_mem (by simp [hkeywords]))) htype]
  change (items (convert val n) (.object fields) vs).resultAt scope here = _
  rw [items, hsingle]
  change (Value.array <$> vs.mapM (convert val n (.object item))).resultAt scope here = _
  rw [resultAt_map (Steady.mapM fun _ _ => convert_steady val _ _ _),
    resultAt_mapM vs fun _ => convert_steady val _ _ _]

lemma convert_textList (hschema : IsTextListSchema schema) (texts : List String) :
    (convert val (n + 2) schema (.array (texts.map .string))).resultAt scope here =
      .ok (.array (texts.map .string)) := by
  obtain ⟨fields, _, rfl, ⟨item, rfl, hitem⟩, hkeywords⟩ := hschema
  rw [convert_list hkeywords]
  refine Except.map_eq_ok_iff.2 ⟨_, ?_, rfl⟩
  rw [Except.mapM_eq_ok_iff, List.forall₂_same]
  intro v hv
  obtain ⟨text, -, rfl⟩ := List.mem_map.1 hv
  rw [convert_text ⟨item, rfl, hitem⟩, resultAt_pure]

end Coercion

/-! ## The value of a parameter -/

namespace Parameter

variable {p : Parameter} {source : Source} {type : String} {raw v w : Value}

/-- A value is converted to the types of the schema and validated. -/
lemma typed_eq_ok_iff (hp : p.schema = some schema) : p.typed val v = .ok w ↔
    ∃ u out, val.run (val.coerced schema v) = .ok u ∧ val.validate u schema = .ok out ∧
      out.value = w := by
  simp only [typed, hp, Except.bind_eq_ok_iff, Except.mapError_eq_ok_iff]
  constructor
  · rintro ⟨u, hu, h⟩
    split at h
    · rename_i out hout
      exact ⟨u, out, hu, hout, Except.ok.inj h⟩
    · cases h
    · cases h
  · rintro ⟨u, out, hu, hout, rfl⟩
    exact ⟨u, hu, by rw [hout]; rfl⟩

/-- A parameter that has a value takes it from its default or reads it from what is found. -/
lemma check_eq_some_iff : p.check val source = .ok (some w) ↔
    p.allowsEmpty = false ∧ p.style.isSupported = true ∧
      ∃ type found, p.declaredType val = .ok type ∧ p.find val type source = .ok found ∧
        (found = .default w ∨
          ∃ raw v, found = .raw raw ∧ p.decode type raw = .ok v ∧ p.typed val v = .ok w) := by
  constructor
  · intro h
    obtain ⟨type, hsought, hsettles⟩ := settles_of_check h
    refine ⟨hsought.plain, hsought.supported, type, ?_⟩
    cases hsettles with
    | default found => exact ⟨_, hsought.type, found, Or.inl rfl⟩
    | raw found decoded typed =>
      exact ⟨_, hsought.type, found, Or.inr ⟨_, _, rfl, decoded, typed⟩⟩
  · rintro ⟨hplain, hsupported, type, found, htype, hfind, rfl | ⟨raw, v, rfl, hdecode, htyped⟩⟩
    · exact Sought.check_of_default ⟨hplain, hsupported, htype⟩ hfind
    · rw [Sought.check_of_raw ⟨hplain, hsupported, htype⟩ hfind, hdecode]
      exact congrArg (Except.map some) htyped

/-- A parameter that is there has the value that is read from its text. -/
lemma check_of_raw (hempty : p.allowsEmpty = false) (hstyle : p.style.isSupported = true)
    (htype : p.declaredType val = .ok type) (hfind : p.find val type source = .ok (.raw raw))
    (hdecode : p.decode type raw = .ok v) (htyped : p.typed val v = .ok w) :
    p.check val source = .ok (some w) :=
  check_eq_some_iff.2 ⟨hempty, hstyle, type, _, htype, hfind, Or.inr ⟨raw, v, rfl, hdecode, htyped⟩⟩

lemma declaredType_textList (hp : p.schema = some schema) (hschema : IsTextListSchema schema) :
    p.declaredType val = .ok "array" := by
  obtain ⟨fields, item, rfl, -, hkeywords⟩ := hschema
  rw [declaredType, hp]
  dsimp only
  rw [Validator.declaredType, Coercion.typeOf_list hkeywords]
  rfl

lemma typed_textList (hp : p.schema = some schema) (hschema : IsTextListSchema schema)
    (texts : List String) :
    p.typed val (.array (texts.map .string)) = .ok (.array (texts.map .string)) := by
  obtain ⟨out, hout, hvalue⟩ := val.validate_textList hschema texts
  have hcoerced : val.run (val.coerced schema (.array (texts.map .string))) =
      .ok (.array (texts.map .string)) :=
    Coercion.convert_textList hschema texts
  exact (typed_eq_ok_iff hp).2 ⟨_, out, hcoerced, hout, hvalue⟩

end Parameter

end ApiContract
