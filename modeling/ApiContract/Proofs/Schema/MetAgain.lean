/-
# Keywords that are met again

A valid value comes back with typed leaves in it, and it is sent with texts in their places.  From
outside it looks as it did before, so constraints that look no deeper are met again, and every part
is visited again as it was visited before.  If all parts are made again what they had become, then
so is the whole.
-/
import ApiContract.Proofs.Schema.ChangedParts
import ApiContract.Proofs.Schema.LeafText
import ApiContract.Proofs.Schema.Holds
import ApiContract.Proofs.Value.Sent

namespace ApiContract

/-! ## Constraints are met again -/

namespace Constraint

open Value (LooksLike)

variable {v v' value : Value} {k : Keyword} {schema : Fields}

lemma expect_eq_nil_iff {holds : Bool} {message : String} :
    expect holds message = .ok [] ↔ holds = true := by
  cases holds <;> simp [expect]

lemma hasSomeType_of_looksLike (hlike : v.LooksLike v') (types : List String) :
    hasSomeType v' types = hasSomeType v types := by
  induction types with
  | nil => rfl
  | cons type types ih => rw [hasSomeType, hasSomeType, hlike.hasType, ih]

lemma type_again (hlike : v.LooksLike v') (h : type v value = .ok []) : type v' value = .ok [] := by
  unfold type at h ⊢
  obtain ⟨names, hnames, h⟩ := Except.bind_eq_ok_iff.1 h
  obtain ⟨holds, hholds, h⟩ := Except.bind_eq_ok_iff.1 h
  refine Except.bind_eq_ok_iff.2 ⟨names, hnames, Except.bind_eq_ok_iff.2 ⟨holds, ?_, ?_⟩⟩
  · rw [hasSomeType_of_looksLike hlike, hholds]
  · exact expect_eq_nil_iff.2 (expect_eq_nil_iff.1 h)

lemma atLeast_again {size size' : Option Nat} (hsize : size' = size) {message message' : String}
    (h : atLeast k size value message = .ok []) : atLeast k size' value message' = .ok [] := by
  obtain ⟨n, hn, h⟩ := Except.bind_eq_ok_iff.1 h
  exact Except.bind_eq_ok_iff.2 ⟨n, hn, expect_eq_nil_iff.2 (hsize ▸ expect_eq_nil_iff.1 h)⟩

lemma atMost_again {size size' : Option Nat} (hsize : size' = size) {message message' : String}
    (h : atMost k size value message = .ok []) : atMost k size' value message' = .ok [] := by
  obtain ⟨n, hn, h⟩ := Except.bind_eq_ok_iff.1 h
  exact Except.bind_eq_ok_iff.2 ⟨n, hn, expect_eq_nil_iff.2 (hsize ▸ expect_eq_nil_iff.1 h)⟩

lemma fieldCount_of_looksLike (hlike : v.LooksLike v') : fieldCount v' = fieldCount v := by
  have hlength : ∀ w : Value, fieldCount w = (w.object?.map Fields.keys).map List.length := by
    intro w
    rw [fieldCount, Option.map_map]
    congr 1
    funext fields
    exact (List.length_map Prod.fst).symm
  rw [hlength, hlength, hlike.keys]

lemma minimum_again (hlike : v.LooksLike v') (h : minimum schema v value = .ok []) :
    minimum schema v' value = .ok [] := by
  cases hnumber : v.isNumber with
  | true => rwa [hlike.number hnumber]
  | false =>
    rw [minimum] at h ⊢
    split at h
    · cases h
    · rename_i hvalue
      rw [if_neg hvalue, hlike.isNumber_eq, hnumber]
      rfl

lemma maximum_again (hlike : v.LooksLike v') (h : maximum schema v value = .ok []) :
    maximum schema v' value = .ok [] := by
  cases hnumber : v.isNumber with
  | true => rwa [hlike.number hnumber]
  | false =>
    rw [maximum] at h ⊢
    split at h
    · cases h
    · rename_i hvalue
      rw [if_neg hvalue, hlike.isNumber_eq, hnumber]
      rfl

lemma isMultiple_of_not_isNumber (h : v.isNumber = false) (divisor : Value) :
    isMultiple v divisor = true := by
  cases v with
  | integer | number => cases h
  | _ => cases divisor <;> rfl

lemma multipleOf_again (hlike : v.LooksLike v') (h : multipleOf v value = .ok []) :
    multipleOf v' value = .ok [] := by
  cases hnumber : v.isNumber with
  | true => rwa [hlike.number hnumber]
  | false =>
    rw [multipleOf] at h ⊢
    split at h
    · cases h
    split at h
    · cases h
    · rename_i hvalue
      rw [if_neg hvalue, isMultiple_of_not_isNumber (hlike.isNumber_eq.trans hnumber)]
      rfl

lemma has_of_keys_eq {fields fields' : Fields} (h : Fields.keys fields' = Fields.keys fields)
    (name : String) : Fields.has name fields' = Fields.has name fields := by
  rw [Bool.eq_iff_iff, Fields.has_iff_mem_keys, Fields.has_iff_mem_keys, h]

lemma required_again (hlike : v.LooksLike v') (h : required v value = .ok []) :
    required v' value = .ok [] := by
  cases value with
  | array names =>
    rcases v.object_or with ⟨fields, rfl⟩ | hv
    · obtain ⟨fields', rfl, hkeys⟩ := hlike.exists_object
      rw [required] at h ⊢
      simpa only [has_of_keys_eq hkeys] using h
    · unfold required
      dsimp only
      split
      · exact absurd rfl (hlike.ne_object hv _)
      · rfl
  | _ => cases h

end Constraint

/-! ## Keywords are met again -/

/-- A schema makes of a value, once it has been sent, what it has made of the value. -/
def Visit.Restores (visit : Visit) (scope : String) (here : List String) (s v : Value) : Prop :=
  ∀ o, (visit v s).resultAt scope here = .ok o → o.violations = [] →
    ∃ o', (visit (o.result v).plain s).resultAt scope here = .ok o' ∧ o'.violations = [] ∧
      o'.result (o.result v).plain = o.result v

/-- What is made of a part is made of it again. -/
lemma Visit.Restores.answer {visit : Visit} {scope : String} {here : List String}
    {path schemaPath : List PathStep} {s v : Value} (hpath : path ≠ [])
    (h : visit.Restores scope [] s v) {o : Outcome}
    (ho : visit.answer scope here ⟨path, schemaPath, v, s⟩ = .ok o) (hnil : o.violations = []) :
    ∃ o', visit.answer scope here ⟨path, schemaPath, (o.result v).plain, s⟩ = .ok o' ∧
      o'.violations = [] ∧ o'.result (o.result v).plain = o.result v := by
  obtain ⟨inner, hinner, rfl⟩ := Visit.answer_eq_ok_iff.1 ho
  rw [Outcome.violations_under_eq_nil_iff] at hnil
  dsimp only at hinner
  rw [if_neg hpath] at hinner
  obtain ⟨o', ho', hnil', hresult⟩ := h inner hinner hnil
  exact ⟨o'.under path schemaPath, Visit.answer_eq_ok_iff.2 ⟨o', by simpa [hpath] using ho', rfl⟩,
    Outcome.violations_under_eq_nil_iff.2 hnil', hresult⟩

namespace Applicator

open Walk

variable {val : Validator} {visit : Visit} {scope : String} {here : List String}
  {schema : Fields} {v v' value : Value} {c : Contribution}

lemma constraint_again {messages messages' : Constraint.Messages}
    (hmessages : Constraint.Inherent messages) (hagain : messages = .ok [] → messages' = .ok [])
    (h : (constraint messages).resultAt scope here = .ok c) (hnil : c.violations = []) :
    (constraint messages').resultAt scope here = .ok .nothing := by
  obtain ⟨ms, hms, rfl⟩ := constraint_ok hmessages h
  obtain rfl : ms = [] := List.map_eq_nil_iff.1 hnil
  rw [constraint, hagain hms]
  rfl

/-! ### Objects -/

/-- The place of a declared property is its name. -/
lemma place_of_property (hvisit : visit.Steady) {fields : Fields} {name : String} {s : Value}
    {p : Part String} (h : (property val visit fields name s).resultAt scope here = .ok p) :
    p.place = name := by
  cases hlookup : fields.lookup name with
  | some u => exact ((property_present_iff hvisit hlookup).1 h).1
  | none => exact ((property_missing_iff hvisit hlookup).1 h).1

/-- A property that is missing is left missing. -/
lemma change_of_property_missing (hvisit : visit.Steady) (hfills : val.fills = false)
    {fields : Fields} {name : String} {s : Value} {p : Part String}
    (h : (property val visit fields name s).resultAt scope here = .ok p)
    (hlookup : fields.lookup name = none) : p.outcome.change = none := by
  rw [((property_missing_iff hvisit hlookup).1 h).2.eq_nothing hfills]

lemma keys_changedFields_of_properties (hvisit : visit.Steady) (hfills : val.fills = false)
    {fields declared : Fields} {parts : List (Part String)}
    (hparts : List.Forall₂ (fun field part =>
      (property val visit fields field.1 field.2).resultAt scope here = .ok part) declared parts) :
    Fields.keys (Part.changedFields fields parts) = Fields.keys fields := by
  refine Part.keys_changedFields fun p hp hchange => ?_
  obtain ⟨⟨name, s⟩, -, hproperty⟩ := exists_left_of_forall₂ hparts hp
  rw [place_of_property hvisit hproperty]
  by_contra hnot
  exact hchange (change_of_property_missing hvisit hfills hproperty
    (Fields.lookup_eq_none_iff_not_mem.2 hnot))

/-- A property is made again what it has become. -/
lemma property_again (hvisit : visit.Steady) (hfills : val.fills = false) {fields fields' : Fields}
    {name : String} {s : Value} {p : Part String}
    (h : (property val visit fields name s).resultAt scope here = .ok p)
    (hnil : p.outcome.violations = [])
    (hchanged : fields'.lookup name = p.outcome.change.or (fields.lookup name))
    (hrestores : ∀ u, fields.lookup name = some u → visit.Restores scope [] s u) :
    ∃ p', (property val visit (Value.plainFields fields') name s).resultAt scope here = .ok p' ∧
      p'.outcome.violations = [] ∧
      p'.outcome.change.or ((Value.plainFields fields').lookup name) = fields'.lookup name := by
  cases hlookup : fields.lookup name with
  | none =>
    rw [change_of_property_missing hvisit hfills h hlookup, hlookup, Option.or_none] at hchanged
    have hplain : (Value.plainFields fields').lookup name = none := by
      rw [Value.lookup_plainFields, hchanged, Option.map_none]
    refine ⟨⟨name, none, s, []⟩, (property_missing_iff hvisit hplain).2 ⟨rfl, .nothing ?_⟩, rfl, ?_⟩
    · simp [Validator.declaredDefault, hfills]
    · rw [hplain, hchanged, Option.or_none]
  | some u =>
    obtain ⟨o', ho', hnil', hresult⟩ := (hrestores u hlookup).answer (by simp)
      ((property_present_iff hvisit hlookup).1 h).2 hnil
    have hresult' : fields'.lookup name = some (p.outcome.result u) := by
      rw [hchanged, hlookup, Option.or_some]
      rfl
    have hplain : (Value.plainFields fields').lookup name = some (p.outcome.result u).plain := by
      rw [Value.lookup_plainFields, hresult', Option.map_some]
    refine ⟨⟨name, o'⟩, (property_present_iff hvisit hplain).2 ⟨rfl, ho'⟩, hnil', ?_⟩
    rw [hresult', hplain, Option.or_some]
    exact congrArg some hresult

/-- Declared properties are made again what they have become. -/
lemma properties_again (hvisit : visit.Steady) (hfills : val.fills = false) {fields : Fields}
    (hnodup : (Fields.keys fields).Nodup) (hplain : (Value.object fields).plain = .object fields)
    (hvalue : ∀ declared, value = .object declared → (Fields.keys declared).Nodup)
    (hrestores : ∀ a, Keyword.Asks schema (.object fields) value .properties a →
      a.value.PartOf (.object fields) → visit.Restores scope [] a.schema a.value)
    (h : (properties val visit (.object fields) value).resultAt scope here = .ok c)
    (hnil : c.violations = []) :
    ∃ c', (properties val visit (c.change.getD (.object fields)).plain value).resultAt scope
        here = .ok c' ∧ c'.violations = [] ∧
      c'.change.getD (c.change.getD (.object fields)).plain = c.change.getD (.object fields) := by
  cases (properties_ok_iff hvisit).1 h with
  | other hobject => exact absurd rfl (hobject fields)
  | @object _ declared parts hparts =>
    dsimp only at hnil ⊢
    rw [Part.changeFields_getD, Value.plain]
    have hdeclared := hvalue declared rfl
    have hplaces : parts.map Part.place = Fields.keys declared :=
      map_eq_map_of_forall₂ (hparts.imp fun _ _ => place_of_property hvisit)
    have hkeys := keys_changedFields_of_properties hvisit hfills hparts
    have hagain : ∀ field ∈ declared, ∃ p',
        (property val visit (Value.plainFields (Part.changedFields fields parts)) field.1
          field.2).resultAt scope here = .ok p' ∧ p'.outcome.violations = [] ∧
        p'.outcome.change.or
            ((Value.plainFields (Part.changedFields fields parts)).lookup field.1) =
          (Part.changedFields fields parts).lookup field.1 := by
      rintro ⟨name, s⟩ hfield
      obtain ⟨p, hp, hproperty⟩ := exists_right_of_forall₂ hparts hfield
      refine property_again hvisit hfills hproperty ?_ ?_ fun u hu =>
        hrestores _ (.property hfield hu) (Value.partOf_of_lookup hu)
      · exact List.flatMap_eq_nil_iff.1 hnil p hp
      · exact Part.lookup_changedFields_of_mem (hplaces ▸ hdeclared) hp
          (place_of_property hvisit hproperty)
    obtain ⟨parts', hparts'⟩ := exists_forall₂ hagain
    refine ⟨_, (properties_ok_iff hvisit).2 (.object (hparts'.imp fun _ _ => And.left)), ?_, ?_⟩
    · refine List.flatMap_eq_nil_iff.2 fun p' hp' => ?_
      obtain ⟨-, -, -, hnil', -⟩ := exists_left_of_forall₂ hparts' hp'
      exact hnil'
    · dsimp only
      rw [Part.changeFields_getD]
      have hplaces' : parts'.map Part.place = Fields.keys declared :=
        map_eq_map_of_forall₂ (hparts'.imp fun _ _ hp' => place_of_property hvisit hp'.1)
      have hkeys' := keys_changedFields_of_properties hvisit hfills
        (hparts'.imp fun _ _ => And.left)
      rw [Value.keys_plainFields, hkeys] at hkeys'
      refine congrArg Value.object (Fields.eq_of_lookup_eq (hkeys' ▸ hnodup)
        (hkeys'.trans hkeys.symm) fun name => ?_)
      by_cases hname : name ∈ Fields.keys declared
      · obtain ⟨⟨_, s⟩, hfield, rfl⟩ := List.mem_map.1 hname
        obtain ⟨p', hp', hproperty, -, hlookup⟩ := exists_right_of_forall₂ hparts' hfield
        rw [Part.lookup_changedFields_of_mem (hplaces' ▸ hdeclared) hp'
          (place_of_property hvisit hproperty), hlookup]
      · -- Properties that are not declared are sent as they were.
        rw [Part.lookup_changedFields_of_not_mem (hplaces' ▸ hname), Value.lookup_plainFields,
          Part.lookup_changedFields_of_not_mem (hplaces ▸ hname)]
        cases hlookup : fields.lookup name with
        | none => rfl
        | some u =>
          exact congrArg some (Value.plain_of_partOf hplain (Value.partOf_of_lookup hlookup))

/-! ### Arrays -/

section

variable {schemaPath : Nat → List PathStep} {vs : List Value} {parts : List (Part Nat)}

lemma nodup_places {pairs : List (Value × Value)}
    (hparts : ItemParts visit scope here schemaPath pairs.zipIdx parts) :
    (parts.map Part.place).Nodup := by
  rw [map_eq_map_of_forall₂ (hparts.imp fun _ _ => And.left), List.zipIdx_map_snd]
  exact List.nodup_range'

/-- An item is made again what it has become. -/
lemma item_again {pairs : List (Value × Value)}
    (hparts : ItemParts visit scope here schemaPath pairs.zipIdx parts)
    (hnil : Part.violations parts = []) {i : Nat} {u s : Value} (hmem : ((u, s), i) ∈ pairs.zipIdx)
    (hu : vs[i]? = some u) (hrestores : visit.Restores scope [] s u) :
    ∃ w, (Part.changedItems vs parts)[i]? = some w ∧ ∃ o',
      visit.answer scope here ⟨[.index i], schemaPath i, w.plain, s⟩ = .ok o' ∧
        o'.violations = [] ∧ o'.result w.plain = w := by
  obtain ⟨p, hp, hplace, hanswer⟩ := exists_right_of_forall₂ hparts hmem
  refine ⟨p.outcome.result u, ?_, hrestores.answer (by simp) hanswer
    (List.flatMap_eq_nil_iff.1 hnil p hp)⟩
  rw [Part.getElem?_changedItems_of_mem (nodup_places hparts) hp hplace, hu, Option.map_some]

/-- Items are made again what they have become.  A pairing gives to each index the schema that the
item there is visited against. -/
lemma itemParts_again {pairing : List Value → List (Value × Value)} {S : Nat → Value → Prop}
    (hpairing : ∀ {vs w s i}, ((w, s), i) ∈ (pairing vs).zipIdx ↔ vs[i]? = some w ∧ S i s)
    (hplain : (Value.array vs).plain = .array vs)
    (hrestores : ∀ i u s, vs[i]? = some u → S i s → visit.Restores scope [] s u)
    (hparts : ItemParts visit scope here schemaPath (pairing vs).zipIdx parts)
    (hnil : Part.violations parts = []) :
    ∃ parts', ItemParts visit scope here schemaPath
        (pairing (Value.plainItems (Part.changedItems vs parts))).zipIdx parts' ∧
      Part.violations parts' = [] ∧
      Part.changedItems (Value.plainItems (Part.changedItems vs parts)) parts' =
        Part.changedItems vs parts := by
  have hsent : ∀ {i : Nat} {u' : Value},
      (Value.plainItems (Part.changedItems vs parts))[i]? = some u' ↔
        ∃ w, (Part.changedItems vs parts)[i]? = some w ∧ w.plain = u' := by
    intro i u'
    rw [Value.plainItems_eq_map, List.getElem?_map, Option.map_eq_some_iff]
  have hagain : ∀ item ∈ (pairing (Value.plainItems (Part.changedItems vs parts))).zipIdx,
      ∃ p' : Part Nat, (p'.place = item.2 ∧ visit.answer scope here
          ⟨[.index item.2], schemaPath item.2, item.1.1, item.1.2⟩ = .ok p'.outcome) ∧
        p'.outcome.violations = [] ∧
        (Part.changedItems vs parts)[item.2]? = some (p'.outcome.result item.1.1) := by
    rintro ⟨⟨u', s⟩, i⟩ hmem
    obtain ⟨hu', hs⟩ := hpairing.1 hmem
    obtain ⟨w, hw, rfl⟩ := hsent.1 hu'
    obtain ⟨u, hu⟩ : ∃ u, vs[i]? = some u := by
      obtain ⟨hlt, -⟩ := List.getElem?_eq_some_iff.1 hw
      exact ⟨_, List.getElem?_eq_getElem (Part.length_changedItems vs parts ▸ hlt)⟩
    obtain ⟨w', hw', o', ho', hnil', hresult⟩ :=
      item_again hparts hnil (hpairing.2 ⟨hu, hs⟩) hu (hrestores i u s hu hs)
    obtain rfl := Option.some.inj (hw.symm.trans hw')
    exact ⟨⟨i, o'⟩, ⟨rfl, ho'⟩, hnil', by rw [hresult, hw]⟩
  obtain ⟨parts', hparts'⟩ := exists_forall₂ hagain
  have hitems := hparts'.imp fun _ _ => And.left
  refine ⟨parts', hitems, List.flatMap_eq_nil_iff.2 fun p' hp' => ?_, List.ext_getElem? fun i => ?_⟩
  · obtain ⟨-, -, -, hnil', -⟩ := exists_left_of_forall₂ hparts' hp'
    exact hnil'
  by_cases hi : i ∈ parts'.map Part.place
  · obtain ⟨p', hp', rfl⟩ := List.mem_map.1 hi
    obtain ⟨⟨⟨u', s⟩, i⟩, hmem, ⟨hplace, -⟩, -, hresult⟩ := exists_left_of_forall₂ hparts' hp'
    rw [Part.getElem?_changedItems_of_mem (nodup_places hitems) hp' rfl, hplace,
      (hpairing.1 hmem).1, Option.map_some, hresult]
  · -- An item that is not visited is sent as it was.
    rw [Part.getElem?_changedItems_of_not_mem hi, Value.plainItems_eq_map, List.getElem?_map]
    cases hw : (Part.changedItems vs parts)[i]? with
    | none => rfl
    | some w =>
      have hkept : i ∉ parts.map Part.place := by
        intro hmem
        obtain ⟨p, hp, rfl⟩ := List.mem_map.1 hmem
        obtain ⟨⟨⟨u, s⟩, i⟩, hmem, hplace, -⟩ := exists_left_of_forall₂ hparts hp
        obtain rfl : p.place = i := hplace
        obtain ⟨p', hp', hplace', -⟩ := exists_right_of_forall₂ hitems
          (hpairing.2 ⟨hsent.2 ⟨w, hw, rfl⟩, (hpairing.1 hmem).2⟩)
        exact hi (List.mem_map.2 ⟨p', hp', hplace'⟩)
      rw [Part.getElem?_changedItems_of_not_mem hkept] at hw
      exact congrArg some (Value.plain_of_partOf hplain (Value.partOf_of_getElem? hw))

end

/-- Items are made again what they have become. -/
lemma items_again (hvisit : visit.Steady) {vs : List Value}
    (hplain : (Value.array vs).plain = .array vs)
    (hrestores : ∀ a, Keyword.Asks schema (.array vs) value .items a →
      a.value.PartOf (.array vs) → visit.Restores scope [] a.schema a.value)
    (h : (items visit (.array vs) value).resultAt scope here = .ok c) (hnil : c.violations = []) :
    ∃ c', (items visit (c.change.getD (.array vs)).plain value).resultAt scope here = .ok c' ∧
      c'.violations = [] ∧
      c'.change.getD (c.change.getD (.array vs)).plain = c.change.getD (.array vs) := by
  cases (items_ok_iff hvisit).1 h with
  | other hlist => exact absurd rfl (hlist vs)
  | @tuple _ schemas parts hparts =>
    dsimp only at hnil ⊢
    rw [Part.changeItems_getD, Value.plain]
    obtain ⟨parts', hparts', hnil', heq⟩ := itemParts_again (S := fun i s => schemas[i]? = some s)
      mem_tuple_iff hplain (fun i u s hu hs => hrestores _ (.tuple hu hs)
        (Value.partOf_of_getElem? hu)) hparts hnil
    refine ⟨_, (items_ok_iff hvisit).2 (.tuple hparts'), hnil', ?_⟩
    dsimp only
    rw [Part.changeItems_getD, heq]
  | @visited _ item parts hparts =>
    dsimp only at hnil ⊢
    rw [Part.changeItems_getD, Value.plain]
    obtain ⟨parts', hparts', hnil', heq⟩ := itemParts_again (S := fun _ s => s = .object item)
      mem_items_iff hplain (fun i u s hu hs => hs ▸ hrestores _ (.item rfl hu)
        (Value.partOf_of_getElem? hu)) hparts hnil
    refine ⟨_, (items_ok_iff hvisit).2 (.visited hparts'), hnil', ?_⟩
    dsimp only
    rw [Part.changeItems_getD, heq]

/-! ### Formats and additional properties -/

/-- A leaf that has been read is read again. -/
lemma format_again {dialect : Dialect} (hformats : val.formats = dialect.formats)
    (hplain : v.plain = v) (h : (format val v value).resultAt scope here = .ok c)
    (hnil : c.violations = []) :
    ∃ c', (format val (c.change.getD v).plain value).resultAt scope here = .ok c' ∧
      c'.violations = [] ∧ c'.change.getD (c.change.getD v).plain = c.change.getD v := by
  obtain ⟨name, rfl, ⟨change, hcheck, rfl⟩ | ⟨fault, message, -, rfl⟩⟩ := format_ok h
  · rw [hformats] at hcheck
    cases change with
    | none =>
      rw [Option.getD_none, hplain]
      exact ⟨_, h, rfl, rfl⟩
    | some leaf =>
      obtain ⟨s, rfl, -⟩ := dialect.readTexts_formats name v leaf hcheck
      obtain ⟨text, hsent, hagain, -⟩ := dialect.check_sent hcheck
      refine ⟨⟨some leaf, none, []⟩, ?_, rfl, rfl⟩
      rw [Option.getD_some, hsent.plain, format, hformats, hagain]
      rfl
  · cases hnil

lemma format_of_isContainer {dialect : Dialect} (hformats : val.formats = dialect.formats)
    (hv : v.isContainer) (name : String) :
    (format val v (.string name)).resultAt scope here = .ok ⟨none, none, []⟩ := by
  rw [format, hformats, dialect.check_of_isContainer name hv]
  rfl

/-- Without patterns the keyword `additionalProperties` concerns the properties that are not
declared. -/
lemma extraFields_of_patternSources (h : patternSources schema = []) (fields : Fields) :
    (extraFields fields schema).resultAt scope here =
      .ok (fields.filter fun (name, _) => !(declaredNames schema).contains name) := by
  rw [extraFields, h]
  rfl

/-- Whether there are more properties than are declared is told by the keys. -/
lemma additionalProperties_again (hvisit : visit.Steady) (hpatterns : patternSources schema = [])
    (hvalue : value.object? = none) (hlike : v.LooksLike v')
    (h : (additionalProperties visit schema v value).resultAt scope here = .ok c)
    (hnil : c.violations = []) :
    (additionalProperties visit schema v' value).resultAt scope here = .ok .nothing := by
  cases (additionalProperties_ok_iff hvisit).1 h with
  | visited => cases hvalue
  | allowed =>
    obtain ⟨fields', rfl, -⟩ := hlike.exists_object
    exact (additionalProperties_ok_iff hvisit).2
      (.allowed (extraFields_of_patternSources hpatterns fields'))
  | @absent fields _ hextras hempty =>
    obtain ⟨fields', rfl, hkeys⟩ := hlike.exists_object
    refine (additionalProperties_ok_iff hvisit).2
      (.absent (extraFields_of_patternSources hpatterns fields') ?_)
    subst hempty
    have hnone : ∀ name ∈ Fields.keys fields, ¬ IsExtra schema name := by
      intro name hname
      obtain ⟨⟨_, w⟩, hfield, rfl⟩ := List.mem_map.1 hname
      exact fun hextra => List.not_mem_nil ((extraFields_ok hextras).2 ⟨hfield, hextra⟩)
    refine List.filter_eq_nil_iff.2 fun ⟨name, w⟩ hfield hextra => ?_
    refine hnone name (hkeys ▸ Fields.mem_keys_of_mem hfield) ⟨?_, Or.inl hpatterns⟩
    simpa using hextra
  | forbidden => cases hnil
  | other hobject hkind =>
    exact (additionalProperties_ok_iff hvisit).2 (.other (hlike.ne_object hobject) hkind)

end Applicator

end ApiContract
