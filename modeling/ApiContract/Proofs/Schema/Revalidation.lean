/-
# Validating again what has been sent

A format reads back every leaf that it has read, so wherever a text has become a typed leaf, the
text that the leaf is sent as becomes the same leaf again.

More can be said of schemas that are structural: what they change in a value they change in one
way, and where they change anything they judge no spelling.  What they have validated is valid again
once it has been sent, and it is made again what it had become.
-/
import ApiContract.Proofs.Schema.MetAgain
import ApiContract.Proofs.Schema.Rewriting
import ApiContract.Proofs.Schema.Strictness

namespace ApiContract

/-! ## Structural schemas -/

namespace Keyword

/-- Keywords that may change a value, each one values of its own kind. -/
def changing : List Keyword := [properties, items, format]

/-- Keywords that look at the spelling of texts or at values as a whole. -/
def judging : List Keyword := [enum, minLength, maxLength, pattern, uniqueItems, not]

/-- Keywords whose changes come on top of others. -/
def merging : List Keyword := [patternProperties, additionalItems, allOf, anyOf, oneOf]

end Keyword

/-- The keyword that may change a value. -/
def Value.changing : Value → Keyword
  | object _ => .properties
  | array _ => .items
  | _ => .format

lemma Value.ne_changing {k : Keyword} (hk : k ∉ Keyword.changing) (v : Value) : k ≠ v.changing := by
  rintro rfl
  cases v <;> simp [changing, Keyword.changing] at hk

lemma Value.changing_mem (v : Value) : v.changing ∈ Keyword.changing := by
  cases v <;> simp [changing, Keyword.changing]

lemma Value.properties_ne_changing {v : Value} (hv : ∀ fields, v ≠ object fields) :
    Keyword.properties ≠ v.changing := by
  cases v with
  | object fields => exact absurd rfl (hv fields)
  | _ => simp [changing]

lemma Value.items_ne_changing {v : Value} (hv : ∀ items, v ≠ array items) :
    Keyword.items ≠ v.changing := by
  cases v with
  | array items => exact absurd rfl (hv items)
  | _ => simp [changing]

lemma Value.format_ne_changing {v : Value} (hv : v.isContainer) : Keyword.format ≠ v.changing := by
  cases v with
  | array | object => simp [changing]
  | _ => cases hv

lemma Value.changing_of_not_isContainer {v : Value} (h : ¬ v.isContainer) :
    v.changing = .format := by
  cases v with
  | array | object => exact absurd rfl h
  | _ => rfl

/-- A schema is structural if it changes a value in one way only, and if it changes nothing unless
it judges no spelling. -/
structure Fields.IsStructural (schema : Fields) : Prop where
  /-- No changes are put together. -/
  merging : ∀ k ∈ Keyword.merging, schema.lookup k.name = none
  /-- Properties that are not declared are allowed or forbidden. -/
  extras : ∀ value, schema.lookup Keyword.additionalProperties.name = some value →
    value.object? = none
  /-- What is judged as a whole is not changed. -/
  judging : (∀ k ∈ Keyword.judging, schema.lookup k.name = none) ∨
    ∀ k ∈ Keyword.changing, schema.lookup k.name = none
  /-- No property is declared twice. -/
  declared : ∀ declared, schema.lookup Keyword.properties.name = some (.object declared) →
    (Fields.keys declared).Nodup

/-- The schemas that a validation may apply are structural. -/
def Store.IsStructural (store : Store) (schema : Value) : Prop :=
  ∀ ⦃scope fields⦄, store.MayApply schema scope (.object fields) →
    fields.lookup Keyword.ref.name = none → Fields.IsStructural fields

namespace Fields.IsStructural

variable {schema : Fields} {value : Value}

lemma patternSources_eq_nil (h : schema.IsStructural) : Applicator.patternSources schema = [] := by
  rw [Applicator.patternSources, h.merging .patternProperties (by decide)]
  rfl

end Fields.IsStructural

/-! ## Keywords -/

namespace Keyword

open Walk Applicator

variable {val : Validator} {follow : Follow} {visit : Visit} {scope : String} {here : List String}
  {schema : Fields} {v w value : Value} {k : Keyword} {c : Contribution} {dialect : Dialect}

/-- Only the keyword for its kind changes a value. -/
lemma change_eq_none (hformats : val.formats = dialect.formats) (hvisit : visit.Steady)
    (hschema : schema.IsStructural) (hlookup : schema.lookup k.name = some value) (href : k ≠ .ref)
    (hk : k ≠ v.changing)
    (h : (k.contribution val follow visit schema v value).resultAt scope here = .ok c) :
    c.change = none := by
  have hmerging : k ∉ merging := by
    intro hmem
    simp [hschema.merging k hmem] at hlookup
  cases k with
  | ref => exact absurd rfl href
  | type => exact constraint_unchanged (.type v value) h
  | enum => exact constraint_unchanged (.enum v value) h
  | minLength => exact constraint_unchanged (.atLeast _ _ value _) h
  | maxLength => exact constraint_unchanged (.atMost _ _ value _) h
  | pattern => exact pattern_unchanged h
  | minimum => exact constraint_unchanged (.minimum schema v value) h
  | maximum => exact constraint_unchanged (.maximum schema v value) h
  | multipleOf => exact constraint_unchanged (.multipleOf v value) h
  | properties =>
    cases (properties_ok_iff hvisit).1 h with
    | object => exact absurd rfl hk
    | other => rfl
  | additionalProperties =>
    cases (additionalProperties_ok_iff hvisit).1 h with
    | visited => cases hschema.extras _ hlookup
    | _ => rfl
  | required => exact constraint_unchanged (.required v value) h
  | minProperties => exact constraint_unchanged (.atLeast _ _ value _) h
  | maxProperties => exact constraint_unchanged (.atMost _ _ value _) h
  | dependencies => simp [contribution] at h
  | items =>
    cases (items_ok_iff hvisit).1 h with
    | tuple | visited => exact absurd rfl hk
    | other => rfl
  | minItems => exact constraint_unchanged (.atLeast _ _ value _) h
  | maxItems => exact constraint_unchanged (.atMost _ _ value _) h
  | uniqueItems => exact constraint_unchanged (.uniqueItems v value) h
  | not => exact not_unchanged hvisit h
  | format =>
    obtain ⟨name, rfl, ⟨change, hcheck, rfl⟩ | ⟨fault, message, -, rfl⟩⟩ := format_ok h
    · have hcontainer : v.isContainer := by
        by_contra hnot
        exact hk (Value.changing_of_not_isContainer hnot).symm
      rw [hformats, dialect.check_of_isContainer name hcontainer] at hcheck
      exact (Except.ok.inj hcheck).symm
    · rfl
  | patternProperties | additionalItems | allOf | anyOf | oneOf =>
    exact absurd (by decide) hmerging

/-- What a keyword has done to a value it does again once the value has been sent: it makes it again
what it had become, or leaves it if it is not for this keyword to change it. -/
def DoneAgain (k : Keyword) (v w : Value) (r : Except SchemaError Contribution) : Prop :=
  ∃ c, r = .ok c ∧ c.violations = [] ∧ (k = v.changing → c.change.getD w.plain = w) ∧
    (k ≠ v.changing → c.change = none)

lemma doneAgain_of_nothing {r : Except SchemaError Contribution} (hk : k ≠ v.changing)
    (h : r = .ok .nothing) : k.DoneAgain v w r :=
  ⟨_, h, rfl, fun heq => absurd heq hk, fun _ => rfl⟩

lemma doneAgain_of_constraint {messages messages' : Constraint.Messages} (hk : k ∉ changing)
    (hmessages : Constraint.Inherent messages) (hagain : messages = .ok [] → messages' = .ok [])
    (h : (constraint messages).resultAt scope here = .ok c) (hnil : c.violations = []) :
    k.DoneAgain v w ((constraint messages').resultAt scope here) :=
  doneAgain_of_nothing (v.ne_changing hk) (constraint_again hmessages hagain h hnil)

lemma doneAgain_of_change {r : Except SchemaError Contribution} (hk : k = v.changing)
    (h : ∃ c, r = .ok c ∧ c.violations = [] ∧ c.change.getD w.plain = w) : k.DoneAgain v w r := by
  obtain ⟨c, hc, hnil, heq⟩ := h
  exact ⟨c, hc, hnil, fun _ => heq, fun hne => absurd hk hne⟩

/-- Keywords of a structural schema do again what they have done. -/
lemma contribution_again (hformats : val.formats = dialect.formats) (hfills : val.fills = false)
    (hvisit : visit.Steady) (hschema : schema.IsStructural) (hjudging : k ∉ judging)
    (hlookup : schema.lookup k.name = some value) (href : k ≠ .ref) (hplain : v.plain = v)
    (hkeys : v.hasUniqueKeys)
    (hrestores : ∀ a, Asks schema v value k a → a.value.PartOf v →
      visit.Restores scope [] a.schema a.value)
    (h : (k.contribution val follow visit schema v value).resultAt scope here = .ok c)
    (hnil : c.violations = []) (hw : k = v.changing → w = c.change.getD v)
    (hlike : v.LooksLike w.plain) :
    k.DoneAgain v w
      ((k.contribution val follow visit schema w.plain value).resultAt scope here) := by
  have hmerging : k ∉ merging := by
    intro hmem
    simp [hschema.merging k hmem] at hlookup
  cases k with
  | ref => exact absurd rfl href
  | type =>
    exact doneAgain_of_constraint (by decide) (.type v value) (Constraint.type_again hlike) h hnil
  | minimum =>
    exact doneAgain_of_constraint (by decide) (.minimum schema v value)
      (Constraint.minimum_again hlike) h hnil
  | maximum =>
    exact doneAgain_of_constraint (by decide) (.maximum schema v value)
      (Constraint.maximum_again hlike) h hnil
  | multipleOf =>
    exact doneAgain_of_constraint (by decide) (.multipleOf v value)
      (Constraint.multipleOf_again hlike) h hnil
  | properties =>
    rcases v.object_or with ⟨fields, rfl⟩ | hv
    · obtain rfl := hw rfl
      exact doneAgain_of_change rfl (properties_again hvisit hfills
        (Value.nodup_of_hasUniqueKeys hkeys) hplain
        (fun declared hvalue => hschema.declared declared (hvalue ▸ hlookup)) hrestores h hnil)
    · cases (properties_ok_iff hvisit).1 h with
      | object => exact absurd rfl (hv _)
      | other =>
        exact doneAgain_of_nothing (Value.properties_ne_changing hv)
          ((properties_ok_iff hvisit).2 (.other (hlike.ne_object hv)))
  | additionalProperties =>
    exact doneAgain_of_nothing (v.ne_changing (by decide)) (additionalProperties_again hvisit
      hschema.patternSources_eq_nil (hschema.extras _ hlookup) hlike h hnil)
  | required =>
    exact doneAgain_of_constraint (by decide) (.required v value)
      (Constraint.required_again hlike) h hnil
  | minProperties =>
    exact doneAgain_of_constraint (by decide) (.atLeast _ _ value _)
      (Constraint.atLeast_again (Constraint.fieldCount_of_looksLike hlike)) h hnil
  | maxProperties =>
    exact doneAgain_of_constraint (by decide) (.atMost _ _ value _)
      (Constraint.atMost_again (Constraint.fieldCount_of_looksLike hlike)) h hnil
  | dependencies => simp [contribution] at h
  | items =>
    rcases v.array_or with ⟨items, rfl⟩ | hv
    · obtain rfl := hw rfl
      exact doneAgain_of_change rfl (items_again hvisit hplain hrestores h hnil)
    · cases (items_ok_iff hvisit).1 h with
      | tuple | visited => exact absurd rfl (hv _)
      | other _ hkind =>
        exact doneAgain_of_nothing (Value.items_ne_changing hv)
          ((items_ok_iff hvisit).2 (.other (hlike.ne_array hv) hkind))
  | minItems =>
    exact doneAgain_of_constraint (by decide) (.atLeast _ _ value _)
      (Constraint.atLeast_again hlike.items) h hnil
  | maxItems =>
    exact doneAgain_of_constraint (by decide) (.atMost _ _ value _)
      (Constraint.atMost_again hlike.items) h hnil
  | format =>
    by_cases hcontainer : v.isContainer
    · obtain ⟨name, rfl, -⟩ := format_ok h
      exact doneAgain_of_nothing (Value.format_ne_changing hcontainer)
        (format_of_isContainer hformats (hlike.isContainer hcontainer) name)
    · have hk := (Value.changing_of_not_isContainer hcontainer).symm
      obtain rfl := hw hk
      exact doneAgain_of_change hk (format_again hformats hplain h hnil)
  | enum | minLength | maxLength | pattern | uniqueItems | not =>
    exact absurd (by decide) hjudging
  | patternProperties | additionalItems | allOf | anyOf | oneOf =>
    exact absurd (by decide) hmerging

end Keyword

/-! ## Schemas -/

namespace Validator

open Walk Keyword

variable {val : Validator} {dialect : Dialect} {follow : Follow} {visit : Visit} {scope : String}
  {here : List String} {fields : Fields} {v w value : Value} {k : Keyword} {o : Outcome}

/-- No keyword of a schema comes twice. -/
lemma nodup_keywordsOf (fields : Fields) : ((keywordsOf fields).map Prod.fst).Nodup := by
  have hsublist : ((keywordsOf fields).map Prod.fst).Sublist Keyword.order := by
    rw [keywordsOf]
    induction Keyword.order with
    | nil => exact .slnil
    | cons k ks ih =>
      rw [List.filterMap_cons]
      cases fields.lookup k.name with
      | none => exact ih.cons k
      | some value => exact ih.cons_cons k
  exact hsublist.nodup (by decide)

/-- If only one keyword changes the value, then this is the change. -/
lemma foldl_layer_eq {outcomes : List (Keyword × Outcome)} {k : Keyword}
    (hnodup : (outcomes.map Prod.fst).Nodup)
    (hnone : ∀ outcome ∈ outcomes, outcome.1 ≠ k → outcome.2.change = none)
    (hmem : (k, o) ∈ outcomes) :
    (outcomes.map fun (_, o) => o.change).foldl (layer v) none = o.change := by
  obtain ⟨before, after, rfl⟩ := List.append_of_mem hmem
  rw [List.map_append, List.map_cons, List.nodup_append, List.nodup_cons] at hnodup
  obtain ⟨-, ⟨hafter, -⟩, hbefore⟩ := hnodup
  have hchanges : ∀ outcomes' ⊆ before ++ (k, o) :: after, k ∉ outcomes'.map Prod.fst →
      ∀ change ∈ outcomes'.map fun (_, o) => o.change, change = none := by
    intro outcomes' hsub hk change hchange
    obtain ⟨outcome, houtcome, rfl⟩ := List.mem_map.1 hchange
    refine hnone outcome (hsub houtcome) ?_
    rintro rfl
    exact hk (List.mem_map_of_mem houtcome)
  have hbeforeNone := hchanges before (List.subset_append_left _ _) fun hk =>
    hbefore k hk k List.mem_cons_self rfl
  have hafterNone := hchanges after
    (List.Subset.trans (List.subset_cons_self _ _) (List.subset_append_right _ _)) hafter
  rw [List.map_append, List.foldl_append, foldl_layer_of_none v none hbeforeNone, List.map_cons,
    List.foldl_cons, foldl_layer_of_none v _ hafterNone]
  rfl

/-- Only the keyword for its kind changes a value. -/
lemma change_of_visitKeyword (hformats : val.formats = dialect.formats)
    (hsteadies : Steadies follow visit) (hfields : Fields.IsStructural fields)
    (hlookup : fields.lookup k.name = some value) (href : k ≠ .ref) (hk : k ≠ v.changing)
    (h : (val.visitKeyword follow visit v fields k value).resultAt scope here = .ok o) :
    o.change = none := by
  obtain ⟨c, hc, rfl⟩ := (visitKeyword_ok_iff hsteadies.follow hsteadies.visit).1 h
  exact change_eq_none hformats hsteadies.visit hfields hlookup href hk hc

/-- If the keyword for its kind is not there, a value stays as it is. -/
lemma result_of_visitKeywords (hformats : val.formats = dialect.formats)
    (hsteadies : Steadies follow visit) (hfields : Fields.IsStructural fields)
    (href : fields.lookup Keyword.ref.name = none) (hnone : fields.lookup v.changing.name = none)
    (h : (val.visitKeywords follow visit v fields).resultAt scope here = .ok o) :
    o.result v = v := by
  obtain ⟨outcomes, hall, rfl⟩ := (visitKeywords_ok_iff hsteadies.follow hsteadies.visit).1 h
  rw [Outcome.result, foldl_layer_of_none]
  · rfl
  intro change hmem
  obtain ⟨outcome, houtcome, rfl⟩ := List.mem_map.1 hmem
  obtain ⟨⟨k, value⟩, hkeyword, -, ho⟩ := exists_left_of_forall₂ hall houtcome
  have hlookup := mem_keywordsOf.1 hkeyword
  refine change_of_visitKeyword hformats hsteadies hfields hlookup ?_ ?_ ho
  · rintro rfl
    simp [hlookup] at href
  · rintro rfl
    simp [hlookup] at hnone

/-- A keyword does again what it has done. -/
lemma visitKeyword_again (hformats : val.formats = dialect.formats) (hfills : val.fills = false)
    (hsteadies : Steadies follow visit) (hfields : Fields.IsStructural fields)
    (hjudging : k ∉ judging) (hlookup : fields.lookup k.name = some value) (href : k ≠ .ref)
    (hplain : v.plain = v) (hkeys : v.hasUniqueKeys)
    (hrestores : ∀ a, Asks fields v value k a → a.value.PartOf v →
      visit.Restores scope [] a.schema a.value)
    (h : (val.visitKeyword follow visit v fields k value).resultAt scope here = .ok o)
    (hnil : o.violations = []) (hw : k = v.changing → w = o.result v)
    (hlike : v.LooksLike w.plain) :
    ∃ o', (val.visitKeyword follow visit w.plain fields k value).resultAt scope here = .ok o' ∧
      o'.violations = [] ∧ (k = v.changing → o'.result w.plain = w) ∧
      (k ≠ v.changing → o'.change = none) := by
  obtain ⟨c, hc, rfl⟩ := (visitKeyword_ok_iff hsteadies.follow hsteadies.visit).1 h
  obtain ⟨c', hc', hnil', hagain, hnone⟩ := contribution_again hformats hfills hsteadies.visit
    hfields hjudging hlookup href hplain hkeys hrestores hc (List.map_eq_nil_iff.1 hnil) hw hlike
  exact ⟨_, (visitKeyword_ok_iff hsteadies.follow hsteadies.visit).2 ⟨c', hc', rfl⟩,
    List.map_eq_nil_iff.2 hnil', hagain, hnone⟩

/-- Keywords of a structural schema make a value again what it had become. -/
lemma visitKeywords_again (hformats : val.formats = dialect.formats) (hfills : val.fills = false)
    (hsteadies : Steadies follow visit) (hfields : Fields.IsStructural fields)
    (href : fields.lookup Keyword.ref.name = none) (hplain : v.plain = v)
    (hkeys : v.hasUniqueKeys)
    (hrestores : ∀ k value a, fields.lookup k.name = some value → Asks fields v value k a →
      a.value.PartOf v → visit.Restores scope [] a.schema a.value)
    (h : (val.visitKeywords follow visit v fields).resultAt scope here = .ok o)
    (hnil : o.violations = []) (hlike : v.LooksLike (o.result v).plain) :
    ∃ o', (val.visitKeywords follow visit (o.result v).plain fields).resultAt scope here = .ok o' ∧
      o'.violations = [] ∧ o'.result (o.result v).plain = o.result v := by
  rcases hlookup : fields.lookup v.changing.name with _ | changer
  · -- Nothing changes the value, so it is sent as it came.
    have hresult := result_of_visitKeywords hformats hsteadies hfields href hlookup h
    rw [hresult, hplain]
    exact ⟨o, h, hnil, hresult⟩
  have hjudging : ∀ k ∈ judging, fields.lookup k.name = none := by
    refine hfields.judging.resolve_right fun hchanging => ?_
    simp [hchanging _ v.changing_mem] at hlookup
  have hnames : ∀ keyword ∈ keywordsOf fields, keyword.1 ≠ .ref := by
    rintro ⟨k, value⟩ hkeyword rfl
    simp [mem_keywordsOf.1 hkeyword] at href
  obtain ⟨outcomes, hall, rfl⟩ := (visitKeywords_ok_iff hsteadies.follow hsteadies.visit).1 h
  have hnodup : (outcomes.map Prod.fst).Nodup := by
    rw [map_eq_map_of_forall₂ (hall.imp fun _ _ => And.left)]
    exact nodup_keywordsOf fields
  have hchange : ∀ outcome ∈ outcomes, outcome.1 ≠ v.changing → outcome.2.change = none := by
    intro outcome hmem hk
    obtain ⟨⟨k, value⟩, hkeyword, hname, ho⟩ := exists_left_of_forall₂ hall hmem
    obtain rfl : outcome.1 = k := hname
    exact change_of_visitKeyword hformats hsteadies hfields (mem_keywordsOf.1 hkeyword)
      (hnames _ hkeyword) hk ho
  generalize hw : Outcome.result _ v = w at hlike ⊢
  have hagain : ∀ keyword ∈ keywordsOf fields, ∃ outcome' : Keyword × Outcome,
      (outcome'.1 = keyword.1 ∧ (val.visitKeyword follow visit w.plain fields keyword.1
        keyword.2).resultAt scope here = .ok outcome'.2) ∧ outcome'.2.violations = [] ∧
      (keyword.1 = v.changing → outcome'.2.result w.plain = w) ∧
      (keyword.1 ≠ v.changing → outcome'.2.change = none) := by
    rintro ⟨k, value⟩ hkeyword
    obtain ⟨⟨k', o⟩, hmem, hname, ho⟩ := exists_right_of_forall₂ hall hkeyword
    obtain rfl : k' = k := hname
    have hk : k' ∉ judging := by
      intro hk
      simpa [hjudging k' hk] using mem_keywordsOf.1 hkeyword
    have hresult : k' = v.changing → w = o.result v := by
      rintro rfl
      rw [← hw, Outcome.result, foldl_layer_eq hnodup hchange hmem, Outcome.result]
    obtain ⟨o', ho', hagain⟩ := visitKeyword_again hformats hfills hsteadies hfields hk
      (mem_keywordsOf.1 hkeyword) (hnames _ hkeyword) hplain hkeys
      (hrestores k' value · (mem_keywordsOf.1 hkeyword)) ho
      (List.flatMap_eq_nil_iff.1 hnil (k', o) hmem) hresult hlike
    exact ⟨(k', o'), ⟨rfl, ho'⟩, hagain⟩
  obtain ⟨outcomes', hall'⟩ := exists_forall₂ hagain
  refine ⟨_, (visitKeywords_ok_iff hsteadies.follow hsteadies.visit).2
    ⟨outcomes', hall'.imp fun _ _ => And.left, rfl⟩, ?_, ?_⟩
  · refine List.flatMap_eq_nil_iff.2 fun outcome' hmem' => ?_
    obtain ⟨-, -, -, hnil', -⟩ := exists_left_of_forall₂ hall' hmem'
    exact hnil'
  have hnodup' : (outcomes'.map Prod.fst).Nodup := by
    rw [map_eq_map_of_forall₂ (hall'.imp fun _ _ h => h.1.1)]
    exact nodup_keywordsOf fields
  have hchange' : ∀ outcome' ∈ outcomes', outcome'.1 ≠ v.changing →
      outcome'.2.change = none := by
    intro outcome' hmem' hk
    obtain ⟨⟨k, value⟩, -, ⟨hname, -⟩, -, -, hnone⟩ := exists_left_of_forall₂ hall' hmem'
    obtain rfl : outcome'.1 = k := hname
    exact hnone hk
  obtain ⟨⟨k, o'⟩, hmem', ⟨hname, -⟩, -, heq, -⟩ := exists_right_of_forall₂ hall'
    (mem_keywordsOf.2 hlookup)
  obtain rfl : k = v.changing := hname
  rw [Outcome.result, foldl_layer_eq hnodup' hchange' hmem']
  exact heq rfl

/-- What a visit makes of a value refines the value. -/
lemma refines_of_visit (hformats : val.formats = dialect.formats) {schema s : Value}
    (hknows : val.store.Knows schema s) (hkeys : v.hasUniqueKeys) {n : Nat}
    (h : (val.visit n v s).resultAt scope here = .ok o) :
    v.Refines (val.formats.Reads (val.store.NamesFormat schema)) (val.fills = true)
      (o.result v) := by
  have hgood := visit_obeys (refinement_law (hformats ▸ dialect.readTexts_formats) _) hknows h hkeys
  rw [Outcome.result]
  cases hchange : o.change with
  | none => exact Value.refines_refl v
  | some w => exact hgood w hchange

/-- **Visits are repeated**: a structural schema makes of a value that has been sent what it has
made of the value. -/
theorem visit_again (hformats : val.formats = dialect.formats) (hfills : val.fills = false)
    {schema : Value} (hstructural : val.store.IsStructural schema) {n : Nat} {s : Value}
    (hs : val.store.MayApply schema scope s) (hplain : v.plain = v) (hkeys : v.hasUniqueKeys) :
    (val.visit n).Restores scope here s v := by
  induction n generalizing scope here v s with
  | zero => exact fun o h => absurd h visit_zero_ne_ok
  | succ n ih =>
    intro o h hnil
    have hsteadies := val.visit_steadies n
    have hlike : v.LooksLike (o.result v).plain :=
      ((refines_of_visit hformats hs.knows hkeys h).respelled (Formats.readsLeaves _ _)
        (by simp [hfills]) hplain).looksLike
    obtain ⟨fields, rfl, hfields⟩ := (visitNode_ok_iff hsteadies.follow hsteadies.visit).1 h
    simp only [visit, visitNode_ok_iff hsteadies.follow hsteadies.visit, Value.object.injEq,
      exists_eq_left']
    cases visitFields_ok_iff.1 hfields with
    | ref href ho =>
      obtain ⟨c, hc, rfl⟩ := (visitKeyword_ok_iff hsteadies.follow hsteadies.visit).1 ho
      obtain ⟨reference, o, rfl, hfollow, rfl⟩ := (Applicator.ref_ok_iff hsteadies.follow).1 hc
      obtain ⟨target, hfound, hnew, hvisit⟩ := (Applicator.follow_ok_iff hsteadies.visit).1 hfollow
      obtain ⟨o', ho', hnil', hresult⟩ := ih (.jump hs href hfound) hplain hkeys o hvisit
        (List.map_eq_nil_iff.1 hnil)
      refine ⟨_, visitFields_ok_iff.2 (.ref href ((visitKeyword_ok_iff hsteadies.follow
        hsteadies.visit).2 ⟨.ofOutcome o', (Applicator.ref_ok_iff hsteadies.follow).2
          ⟨reference, o', rfl, (Applicator.follow_ok_iff hsteadies.visit).2
            ⟨target, hfound, hnew, ho'⟩, rfl⟩, rfl⟩)), ?_, hresult⟩
      exact List.map_eq_nil_iff.2 hnil'
    | null _ _ _ heq =>
      have hresult : o.result v = v := by
        rw [heq]
        rfl
      rw [hresult, hplain]
      exact ⟨o, hfields, hnil, hresult⟩
    | keywords href hnull ho =>
      obtain ⟨o', ho', hnil', hresult⟩ := visitKeywords_again hformats hfills hsteadies
        (hstructural hs href) href hplain hkeys
        (fun k value a hlookup hasks hpart => ih (.asked hs href hlookup hasks)
          (Value.plain_of_partOf hplain hpart) (Value.hasUniqueKeys_of_partOf hkeys hpart))
        ho hnil hlike
      have hisNull : (o.result v).plain.isNull = v.isNull := Except.ok.inj (hlike.hasType "null")
      exact ⟨o', visitFields_ok_iff.2 (.keywords href (hisNull ▸ hnull) ho'), hnil', hresult⟩

/-- A structural schema takes what has been sent, and it makes of it what it had made of the
value. -/
lemma validate_again (hformats : val.formats = dialect.formats) (hfills : val.fills = false)
    {schema : Value} (hstructural : val.store.IsStructural schema) (hplain : v.plain = v)
    (hkeys : v.hasUniqueKeys) {out : Validated} (h : val.validate v schema = .ok out) :
    v.Respelled out.value.plain ∧
      ∃ again, val.validate out.value.plain schema = .ok again ∧ again.value = out.value := by
  have hrespelled : v.Respelled out.value.plain :=
    (validate_refines (hformats ▸ dialect.readTexts_formats) hkeys h).respelled
      (Formats.readsLeaves _ _) (by simp [hfills]) hplain
  obtain ⟨o, ho, hnil, rfl⟩ := validate_eq_ok_iff.1 h
  obtain ⟨o', ho', hnil', hresult⟩ :=
    visit_again hformats hfills hstructural .root hplain hkeys o ho hnil
  -- The visit goes as deep as before, since what is sent has the size of the value.
  have hdepth : val.visitDepth (o.result v).plain schema = val.visitDepth v schema :=
    congrArg (fun n => (val.store.size + n + schema.size + 2).pow 8) hrespelled.size_eq
  have hagain : (val.outcome (o.result v).plain schema).resultAt val.store.baseUri [] = .ok o' := by
    rw [outcome, hdepth]
    exact ho'
  exact ⟨hrespelled, _, validate_eq_ok_iff.2 ⟨o', hagain, hnil', rfl⟩, hresult⟩

end Validator

/-! ## Schemas without some keywords -/

/-- What no structural schema may have, and what it may not have beside changes. -/
def Keyword.unstructural : List String :=
  (merging ++ judging ++ [additionalProperties]).map name

/-- It is enough that some keywords do not occur in the schema and in the documents, and that no key
occurs twice in an object. -/
lemma Store.isStructural_of_avoids {store : Store} {schema : Value}
    (hschema : schema.avoids Keyword.unstructural ∧ schema.hasUniqueKeys)
    (hdocuments : ∀ entry ∈ store.documents,
      entry.2.avoids Keyword.unstructural ∧ entry.2.hasUniqueKeys) :
    store.IsStructural schema := by
  intro scope fields happly _
  obtain ⟨havoids, hkeys⟩ : (Value.object fields).avoids Keyword.unstructural ∧
      (Value.object fields).hasUniqueKeys := by
    rcases happly.knows with h | ⟨entry, hentry, h⟩
    · exact ⟨Value.avoids_of_contains hschema.1 h, Value.hasUniqueKeys_of_contains hschema.2 h⟩
    · obtain ⟨havoids, hkeys⟩ := hdocuments entry hentry
      exact ⟨Value.avoids_of_contains havoids h, Value.hasUniqueKeys_of_contains hkeys h⟩
  have hnone : ∀ k ∈ Keyword.merging ++ Keyword.judging ++ [Keyword.additionalProperties],
      fields.lookup k.name = none :=
    fun k hk => Value.lookup_eq_none_of_avoids havoids (List.mem_map_of_mem hk)
  refine ⟨fun k hk => hnone k (by simp [hk]), fun value hvalue => ?_,
    Or.inl fun k hk => hnone k (by simp [hk]), fun declared hdeclared => ?_⟩
  · simp [hnone .additionalProperties (by simp)] at hvalue
  · exact Value.nodup_of_hasUniqueKeys
      (Value.hasUniqueKeys_of_partOf hkeys (Value.partOf_of_lookup hdeclared))

/-! ## Leaves are read back -/

/-- Wherever a text has become a typed leaf, a format that is named in the schema or in a document
has read the leaf, and it reads the leaf in what is sent there. -/
lemma Dialect.text_sent (dialect : Dialect) {store : Store} {fills : Bool} {v schema : Value}
    {out : Validated} (hkeys : v.hasUniqueKeys)
    (h : (Validator.mk store dialect.formats fills).validate v schema = .ok out)
    {path : List PathStep} {s : String} (hpath : v.Leads path (.string s)) :
    out.value.Leads path (.string s) ∨ ∃ leaf name text, out.value.Leads path leaf ∧
      store.NamesFormat schema name ∧
      dialect.formats.check name (.string s) = .ok (some leaf) ∧
      leaf.SentAs text ∧ out.value.plain.Leads path (.string text) ∧
      dialect.formats.check name (.string text) = .ok (some leaf) := by
  obtain ⟨leaf, hleaf, heq | ⟨-, name, hnamed, hcheck⟩⟩ :=
    (Validator.validate_refines dialect.readTexts_formats hkeys h).leads hpath
  · exact Or.inl (heq ▸ hleaf)
  · obtain ⟨text, hsent, hagain, -⟩ := dialect.check_sent hcheck
    exact Or.inr ⟨leaf, name, text, hleaf, hnamed, hcheck, hsent, hsent.plain ▸ hleaf.plain, hagain⟩

/-- **Typed leaves are read back from what they are sent as.**  If a format makes a typed leaf of
some text, then the leaf is sent as a text of which the format makes an equal leaf.  So whatever
schema a value is valid for, a text of it stays or becomes a leaf that the same format reads in what
is sent there.  And what is valid for a structural schema is valid again once it has been sent: it
is made again what it had become, with equal leaves in the same places. -/
theorem Dialect.leaves_read_back (dialect : Dialect) (store : Store) :
    (∀ name s leaf, dialect.formats.check name (.string s) = .ok (some leaf) →
      ∃ text, leaf.SentAs text ∧ ∃ again,
        dialect.formats.check name (.string text) = .ok (some again) ∧ again = leaf ∧
          again == leaf) ∧
    (∀ fills v schema out, v.hasUniqueKeys →
      (Validator.mk store dialect.formats fills).validate v schema = .ok out →
      ∀ path s, v.Leads path (.string s) →
        out.value.Leads path (.string s) ∨ ∃ leaf name text, out.value.Leads path leaf ∧
          store.NamesFormat schema name ∧
          dialect.formats.check name (.string s) = .ok (some leaf) ∧
          leaf.SentAs text ∧ out.value.plain.Leads path (.string text) ∧
          dialect.formats.check name (.string text) = .ok (some leaf)) ∧
    (∀ v schema out, store.IsStructural schema → v.hasUniqueKeys → v.plain = v →
      (dialect.validator store).validate v schema = .ok out →
      (v.IsDocument → v.nesting ≤ 127 →
        Json.ofText out.value.serialized = .ok out.value.plain) ∧
      ∃ again, (dialect.validator store).validate out.value.plain schema = .ok again ∧
        again.value = out.value ∧ ∀ path leaf, leaf.isTyped → out.value.Leads path leaf →
          ∃ leaf', again.value.Leads path leaf' ∧ leaf' == leaf) := by
  refine ⟨fun name s leaf hcheck => ?_, fun fills v schema out hkeys h path s hpath =>
    dialect.text_sent hkeys h hpath, fun v schema out hstructural hkeys hplain h => ?_⟩
  · obtain ⟨text, hsent, hagain, hsame⟩ := dialect.check_sent hcheck
    exact ⟨text, hsent, leaf, hagain, rfl, hsame⟩
  obtain ⟨hrespelled, again, hagain, hvalue⟩ :=
    Validator.validate_again rfl rfl hstructural hplain hkeys h
  refine ⟨fun hdocument hdepth => ?_, again, hagain, hvalue, fun path leaf htyped hleaf =>
    ⟨leaf, hvalue ▸ hleaf, Value.same_self_of_isTyped htyped⟩⟩
  rw [← Value.serialized_plain]
  exact Json.ofText_serialized (hdocument.respelled hrespelled)
    (hrespelled.nesting_eq.trans_le hdepth)

namespace Logbook

/-- A schema of days. -/
def day : Value := .object [("format", .string "date")]

/-- A schema of days whose spelling is short. -/
def shortDay : Value := .object [("format", .string "date"), ("maxLength", .integer 9)]

/-- A schema of days, times, addresses and pictures. -/
def schema : Value := .object [("properties", .object [
  ("day", day),
  ("at", .object [("format", .string "date-time")]),
  ("peers", .object [("items", .object [("format", .string "ipv6")])]),
  ("gate", .object [("format", .string "ipv4")]),
  ("picture", .object [("format", .string "byte")])])]

/-- A value in which texts are not spelled as they are sent. -/
def value : Value := .object [
  ("at", .string "2016-12-31t23:59:60.5z"),
  ("day", .string "+2017-7-6"),
  ("peers", .array [.string "0:0:0:0:0:FFFF:1.2.3.4", .string "2001:DB8:0:0:1::1"]),
  ("gate", .string "10.0.0.1"),
  ("picture", .string "aGk="),
  ("note", .string "+2017-7-6")]

/-- How it is sent. -/
def text : String :=
  "\x7b\"at\":\"2016-12-31T23:59:60.500Z\",\"day\":\"2017-07-06\"," ++
  "\"peers\":[\"::ffff:1.2.3.4\",\"2001:db8::1:0:0:1\"],\"gate\":\"10.0.0.1\"," ++
  "\"picture\":\"aGk=\",\"note\":\"+2017-7-6\"\x7d"

/-- Validation with the formats of interface descriptions. -/
def validator : Validator := Dialect.oas3.validator (.ofRoot "" schema)

lemma isStructural_schema : validator.store.IsStructural schema := by
  refine Store.isStructural_of_avoids (by decide) fun entry hentry => ?_
  obtain rfl := List.mem_singleton.1 hentry
  decide

lemma isDocument_value : value.IsDocument := by
  refine .object (by decide) ?_
  simp only [List.forall_mem_cons, List.not_mem_nil, false_imp_iff, implies_true, and_true]
  refine ⟨.string _, .string _, .array ?_, .string _, .string _, .string _⟩
  simpa using ⟨.string _, .string _⟩

end Logbook

/-- Every leaf of the log is sent in one spelling, and from there the log is read as it was. -/
theorem logbook_is_read_back :
    (∃ day, Formats.oas3.check "date" (.string "+2017-7-6") = .ok (some day) ∧
      day.SentAs "2017-07-06" ∧
      Formats.oas3.check "date" (.string "2017-07-06") = .ok (some day)) ∧
    (∃ out leaf name text, Logbook.validator.validate (.string "+2017-7-6") Logbook.day = .ok out ∧
      out.value.Leads [] leaf ∧ leaf.SentAs text ∧ out.value.plain.Leads [] (.string text) ∧
      Formats.oas3.check name (.string text) = .ok (some leaf)) ∧
    ∃ out again, Logbook.validator.validate Logbook.value Logbook.schema = .ok out ∧
      out.value.serialized = Logbook.text ∧ Json.ofText Logbook.text = .ok out.value.plain ∧
      Logbook.validator.validate out.value.plain Logbook.schema = .ok again ∧
      again.value = out.value := by
  have hok : ∀ {ε α β : Type} {r : Except ε α} {f : α → β} {b : β},
      r.toOption.map f = some b → ∃ a, r = .ok a ∧ f a = b := by
    intro ε α β r f b h
    cases r with
    | error e => simp [Except.toOption] at h
    | ok a => exact ⟨a, rfl, Option.some.inj h⟩
  obtain ⟨hformat, hany, hstructural⟩ :=
    Dialect.oas3.leaves_read_back (.ofRoot "" Logbook.schema)
  refine ⟨?_, ?_, ?_⟩
  · obtain ⟨day, hday, htext⟩ : ∃ change,
        Formats.oas3.check "date" (.string "+2017-7-6") = .ok change ∧
        change.bind Value.leafText? = some "2017-07-06" := hok (by decide +kernel)
    obtain ⟨day, rfl, htext⟩ := Option.bind_eq_some_iff.1 htext
    obtain ⟨text, hsent, again, hagain, rfl, -⟩ := hformat _ _ _ hday
    obtain rfl := Option.some.inj (hsent.leafText.symm.trans htext)
    exact ⟨_, hday, hsent, hagain⟩
  · obtain ⟨out, hout, htyped⟩ : ∃ out,
        Logbook.validator.validate (.string "+2017-7-6") Logbook.day = .ok out ∧
        out.value.isTyped = true := hok (by decide +kernel)
    rcases hany false _ _ out rfl hout [] _ (.here _) with
      hstays | ⟨leaf, name, text, hleaf, -, -, hsent, hplain, hagain⟩
    · -- The day has been read, so the text is not there any more.
      generalize out.value = w at htyped hstays
      cases hstays
      cases htyped
    · exact ⟨out, leaf, name, text, hout, hleaf, hsent, hplain, hagain⟩
  · obtain ⟨out, hout, htext⟩ : ∃ out,
        Logbook.validator.validate Logbook.value Logbook.schema = .ok out ∧
        out.value.serialized = Logbook.text := hok (by decide +kernel)
    obtain ⟨hread, again, hagain, hvalue, -⟩ := hstructural _ _ out Logbook.isStructural_schema
      (by decide) Logbook.isDocument_value.plain_eq hout
    exact ⟨out, again, hout, htext, htext ▸ hread Logbook.isDocument_value (by decide), hagain,
      hvalue⟩

/-- A schema that judges the spelling of a day may refuse what is sent for it. -/
example :
    (Logbook.validator.validate (.string "+2017-7-6") Logbook.shortDay).toOption.map
        (·.value.serialized) = some "\"2017-07-06\"" ∧
      (Logbook.validator.violationsOf (.string "2017-07-06") Logbook.shortDay).toOption.map
        List.length = some 1 := by
  decide +kernel

end ApiContract
