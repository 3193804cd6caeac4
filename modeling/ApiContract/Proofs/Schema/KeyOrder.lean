/-
# The order of keys and what keywords contribute

No keyword depends on the order of the keys in the value, in its own value or in the schema
around it.  If it comes to a good end for one order, it does so for any other one, and its
contribution is alike, as long as this holds of the visits it makes.

One thing has to be expected of a schema: patterns are joined into one, in the order of their
keys, and what the joined pattern matches has to be what one of them matches.
-/
import ApiContract.Proofs.Schema.ConstraintOrder
import ApiContract.Proofs.Schema.Coverage
import ApiContract.Proofs.Schema.Likeness
import ApiContract.Proofs.Schema.Visits

namespace ApiContract

/-! ## Patterns that are joined -/

namespace Value

/-- The patterns of every object in a value can be joined. -/
def JoinsPatterns (s : Value) : Prop :=
  ∀ fields, s.Contains (.object fields) → Fields.JoinsPatterns fields

lemma JoinsPatterns.contains {s w : Value} (h : s.JoinsPatterns) (hw : s.Contains w) :
    w.JoinsPatterns :=
  fun fields hfields => h fields (hw.trans hfields)

lemma joinsPatterns_array_iff {items : List Value} :
    (array items).JoinsPatterns ↔ ∀ w ∈ items, w.JoinsPatterns := by
  refine ⟨fun h w hw => h.contains (PartOf.item hw).contains, fun h fields hfields => ?_⟩
  rcases Relation.ReflTransGen.cases_tail hfields with heq | ⟨w, hw, hpart⟩
  · exact absurd heq (by simp)
  · cases hpart with
    | item hmem => exact h w hmem fields hw

lemma joinsPatterns_object_iff {own : Fields} :
    (object own).JoinsPatterns ↔
      Fields.JoinsPatterns own ∧ ∀ field ∈ own, field.2.JoinsPatterns := by
  refine ⟨fun h => ⟨h own (.refl _), fun field hfield =>
    h.contains (PartOf.field hfield).contains⟩, fun h fields hfields => ?_⟩
  rcases Relation.ReflTransGen.cases_tail hfields with heq | ⟨w, hw, hpart⟩
  · exact object.inj heq ▸ h.1
  · cases hpart with
    | field hmem => exact h.2 _ hmem fields hw

lemma joinsPatterns_of_leaf {s : Value} (hleaf : ¬ s.isContainer) : s.JoinsPatterns := by
  intro fields hfields
  rcases Relation.ReflTransGen.cases_tail hfields with rfl | ⟨w, -, hpart⟩
  · simp [isContainer] at hleaf
  · cases hpart <;> simp [isContainer] at hleaf

/-- A schema and the same schema with its keys in another order; the patterns in both can be
joined. -/
structure Counterpart (s s' : Value) : Prop where
  /-- Only the keys come in another order. -/
  reordered : s.Reordered s'
  /-- The patterns of the one can be joined. -/
  joins : s.JoinsPatterns
  /-- The patterns of the other can be joined. -/
  joins' : s'.JoinsPatterns

/-- The same key with a counterpart. -/
def CounterpartField (field field' : String × Value) : Prop :=
  field.1 = field'.1 ∧ Counterpart field.2 field'.2

namespace Counterpart

variable {s s' w w' : Value} {schemas schemas' : List Value} {fields fields' : Fields}

lemma symm (h : Counterpart s s') : Counterpart s' s :=
  ⟨h.reordered.symm, h.joins', h.joins⟩

lemma part (h : Counterpart s s') (hw : PartOf w s) (hw' : PartOf w' s')
    (hr : w.Reordered w') : Counterpart w w' :=
  ⟨hr, h.joins.contains hw.contains, h.joins'.contains hw'.contains⟩

lemma exists_array (h : Counterpart (.array schemas) s') :
    ∃ schemas', s' = .array schemas' ∧ List.Forall₂ Counterpart schemas schemas' := by
  obtain ⟨schemas', rfl, hitems⟩ := reordered_array_iff.1 h.reordered
  exact ⟨schemas', rfl,
    forall₂_imp_mem hitems fun w hw w' hw' => h.part (.item hw) (.item hw')⟩

lemma exists_object (h : Counterpart (.object fields) s') :
    ∃ fields', s' = .object fields' ∧ Rearranged CounterpartField fields fields' := by
  obtain ⟨fields', rfl, -, hfields⟩ := reordered_object_iff.1 h.reordered
  exact ⟨fields', rfl, hfields.imp fun field hfield field' hfield' hr =>
    ⟨hr.1, h.part (.field hfield) (.field hfield') hr.2⟩⟩

lemma exists_lookup (h : Counterpart (.object fields) (.object fields')) {key : String}
    (hw : fields.lookup key = some w) : ∃ w', fields'.lookup key = some w' ∧ Counterpart w w' := by
  obtain ⟨w', hw', hr⟩ := h.reordered.exists_lookup hw
  exact ⟨w', hw', h.part (partOf_of_lookup hw) (partOf_of_lookup hw') hr⟩

end Counterpart

end Value

open Value (Counterpart)

namespace Applicator

variable {schema schema' : Fields} {scope : String} {here : List String}

lemma keysUnder_perm (h : (Value.object schema).Reordered (.object schema')) (name : String) :
    (((schema.lookup name).bind Value.object?).elim [] Fields.keys).Perm
      (((schema'.lookup name).bind Value.object?).elim [] Fields.keys) := by
  cases hlookup : schema.lookup name with
  | none => rw [h.lookup_eq_none_iff.1 hlookup]
  | some w =>
    obtain ⟨w', hlookup', hw⟩ := h.exists_lookup hlookup
    rw [hlookup', Option.bind_some, Option.bind_some]
    cases hw.alike with
    | array => exact .refl _
    | object _ hfields => exact Value.keys_perm hfields
    | leaf => exact .refl _

lemma declaredNames_perm (h : (Value.object schema).Reordered (.object schema')) :
    (declaredNames schema).Perm (declaredNames schema') :=
  keysUnder_perm h Keyword.properties.name

lemma patternSources_perm (h : (Value.object schema).Reordered (.object schema')) :
    (patternSources schema).Perm (patternSources schema') :=
  keysUnder_perm h Keyword.patternProperties.name

lemma isLeftOver_eq (h : (Value.object schema).Reordered (.object schema')) (name : String) :
    isLeftOver schema name = isLeftOver schema' name := by
  rw [isLeftOver, isLeftOver, (declaredNames_perm h).contains_eq, (patternSources_perm h).any_eq]

end Applicator

/-! ## Visits -/

/-- Visits that come to a good end do so with the keys in another order, too, and what is made of
the value is alike. -/
structure Visit.Carries (visit visit' : Visit) : Prop where
  /-- The visits in the given order are steady. -/
  steady : visit.Steady
  /-- The visits in the other order are steady. -/
  steady' : visit'.Steady
  /-- What is made of a value in the given order is made of it in the other one. -/
  carry : ∀ {scope : String} {here : List String} {v v' s s' : Value} {o : Outcome},
    v.Reordered v' → Counterpart s s' → (visit v s).resultAt scope here = .ok o →
    ∃ o', (visit' v' s').resultAt scope here = .ok o' ∧ o.Like o'

lemma Visit.Carries.answer {visit visit' : Visit} (h : visit.Carries visit') {scope : String}
    {here : List String} {path schemaPath : List PathStep} {v v' s s' : Value} {o : Outcome}
    (hv : v.Reordered v') (hs : Counterpart s s')
    (ho : visit.answer scope here ⟨path, schemaPath, v, s⟩ = .ok o) :
    ∃ o', visit'.answer scope here ⟨path, schemaPath, v', s'⟩ = .ok o' ∧ o.Like o' := by
  obtain ⟨o, hvisited, rfl⟩ := Visit.answer_eq_ok_iff.1 ho
  obtain ⟨o', hvisited', hlike⟩ := h.carry hv hs hvisited
  exact ⟨_, Visit.answer_eq_ok_iff.2 ⟨o', hvisited', rfl⟩, hlike.under path schemaPath⟩

/-- What references lead to is visited with the keys in another order, too. -/
structure Follow.Carries (follow follow' : Follow) : Prop where
  /-- Following in the given order is steady. -/
  steady : follow.Steady
  /-- Following in the other order is steady. -/
  steady' : follow'.Steady
  /-- What is made of a value in the given order is made of it in the other one. -/
  carry : ∀ {scope : String} {here : List String} {v v' : Value} {reference : String} {o : Outcome},
    v.Reordered v' → (follow v reference).resultAt scope here = .ok o →
    ∃ o', (follow' v' reference).resultAt scope here = .ok o' ∧ o.Like o'

namespace Applicator

variable {store store' : Store} {formats : Formats} {visit visit' : Visit} {scope : String}
  {here : List String} {v v' value value' : Value} {c : Contribution}

lemma exists_tuple {schema schema' : Fields}
    (h : (Value.object schema).Reordered (.object schema')) {schemas : List Value}
    (htuple : (schema.lookup Keyword.items.name).bind Value.array? = some schemas) :
    ∃ schemas', (schema'.lookup Keyword.items.name).bind Value.array? = some schemas' ∧
      schemas.length = schemas'.length := by
  obtain ⟨value, hvalue, harray⟩ := Option.bind_eq_some_iff.1 htuple
  obtain rfl := Value.array?_eq_some_iff.1 harray
  obtain ⟨w', hlookup', hw⟩ := h.exists_lookup hvalue
  obtain ⟨schemas', rfl, hschemas⟩ := Value.reordered_array_iff.1 hw
  exact ⟨schemas', by rw [hlookup']; rfl, hschemas.length_eq⟩

/-- Items are paired off with one schema. -/
lemma pairs_forall₂ {vs vs' : List Value} (hvs : List.Forall₂ Value.Reordered vs vs')
    {s s' : Value} (hs : Counterpart s s') :
    List.Forall₂ (fun pair pair' => pair.1.Reordered pair'.1 ∧ Counterpart pair.2 pair'.2)
      (vs.map (·, s)) (vs'.map (·, s')) := by
  rw [List.forall₂_map_left_iff, List.forall₂_map_right_iff]
  exact hvs.imp fun _ _ hv => ⟨hv, hs⟩

/-- What is made of the value by a branch and by its counterpart is alike. -/
def LikeBranch (outcome outcome' : Nat × Outcome) : Prop :=
  outcome.2.Like outcome'.2

section

variable {outcomes outcomes' : List (Nat × Outcome)}

lemma like_allViolations (h : Rearranged LikeBranch outcomes outcomes') :
    Rearranged Violation.Like (allViolations outcomes) (allViolations outcomes') :=
  h.flatMap fun _ _ hlike => hlike

lemma like_passing (h : Rearranged LikeBranch outcomes outcomes') :
    Rearranged LikeBranch (passing outcomes) (passing outcomes') :=
  h.filter fun _ _ hlike => Rearranged.isEmpty_eq hlike

lemma like_noBranch (v v' : Value) (h : Rearranged LikeBranch outcomes outcomes') :
    (noBranch v outcomes).Like (noBranch v' outcomes') :=
  .of_forall₂ (.cons (Violation.like_iff.2 ⟨rfl, rfl, rfl, like_allViolations h⟩) .nil)

end

section

variable (hvisit : visit.Carries visit')

include hvisit

/-! ## Parts -/

lemma fieldParts_carry {fields fields' : Fields} (hfields : Rearranged Value.ReorderedField fields
    fields') {s s' : Value} (hs : Counterpart s s') {schemaPath : List PathStep}
    {parts : List (Part String)} (h : FieldParts visit scope here schemaPath s fields parts) :
    ∃ parts', FieldParts visit' scope here schemaPath s' fields' parts' ∧
      Rearranged Part.Like parts parts' := by
  refine hfields.carry h fun field field' part hfield hpart => ?_
  obtain ⟨hkey, hv⟩ := hfield
  obtain ⟨hplace, hanswer⟩ := hpart
  obtain ⟨o', hanswer', hlike⟩ := hvisit.answer hv hs hanswer
  exact ⟨⟨field'.1, o'⟩, ⟨rfl, hkey ▸ hanswer'⟩, hlike⟩

lemma itemParts_carry {pairs pairs' : List (Value × Value)}
    (hpairs : List.Forall₂ (fun pair pair' => pair.1.Reordered pair'.1 ∧
      Counterpart pair.2 pair'.2) pairs pairs')
    {schemaPath : Nat → List PathStep} {start : Nat} {parts : List (Part Nat)}
    (h : ItemParts visit scope here schemaPath (pairs.zipIdx start) parts) :
    ∃ parts', ItemParts visit' scope here schemaPath (pairs'.zipIdx start) parts' ∧
      List.Forall₂ Part.Like parts parts' := by
  refine carry_forall₂ (forall₂_zipIdx hpairs start) h fun item item' part hitem hpart => ?_
  obtain ⟨⟨hv, hs⟩, hindex⟩ := hitem
  obtain ⟨hplace, hanswer⟩ := hpart
  obtain ⟨o', hanswer', hlike⟩ := hvisit.answer hv hs hanswer
  exact ⟨⟨item'.2, o'⟩, ⟨rfl, hindex ▸ hanswer'⟩, hlike⟩

/-! ## Objects -/

lemma property_carry {fields fields' : Fields}
    (hv : (Value.object fields).Reordered (.object fields')) {name : String} {s s' : Value}
    (hs : Counterpart s s') {part : Part String}
    (h : (property ⟨store, formats, false⟩ visit fields name s).resultAt scope here = .ok part) :
    ∃ part', (property ⟨store', formats, false⟩ visit' fields' name s').resultAt scope here =
      .ok part' ∧ part.Like part' := by
  cases hlookup : fields.lookup name with
  | some w =>
    obtain ⟨w', hlookup', hw⟩ := hv.exists_lookup hlookup
    obtain ⟨-, hanswer⟩ := (property_present_iff hvisit.steady hlookup).1 h
    obtain ⟨o', hanswer', hlike⟩ := hvisit.answer hw hs hanswer
    exact ⟨⟨name, o'⟩, (property_present_iff hvisit.steady' hlookup').2 ⟨rfl, hanswer'⟩, hlike⟩
  | none =>
    have hlookup' := hv.lookup_eq_none_iff.1 hlookup
    obtain ⟨-, hfilled⟩ := (property_missing_iff hvisit.steady hlookup).1 h
    have hdefault : (Validator.declaredDefault ⟨store', formats, false⟩ s').resultAt scope here =
        .ok none := by
      simp [Validator.declaredDefault]
    refine ⟨⟨name, none, s', []⟩, (property_missing_iff hvisit.steady' hlookup').2
      ⟨rfl, .nothing hdefault⟩, ?_⟩
    rw [Part.Like, hfilled.eq_nothing rfl]
    exact Rearranged.nil

lemma properties_carry (hv : v.Reordered v') (hvalue : Counterpart value value')
    (h : (properties ⟨store, formats, false⟩ visit v value).resultAt scope here = .ok c) :
    ∃ c', (properties ⟨store', formats, false⟩ visit' v' value').resultAt scope here = .ok c' ∧
      c.Like c' := by
  cases (properties_ok_iff hvisit.steady).1 h with
  | object hparts =>
    obtain ⟨fields', rfl, -⟩ := Value.reordered_object_iff.1 hv
    obtain ⟨declared', rfl, hdeclared⟩ := hvalue.exists_object
    obtain ⟨parts', hparts', hlike⟩ := hdeclared.carry hparts fun field field' part hfield
      hpart => property_carry hvisit hv hfield.2 (hfield.1 ▸ hpart)
    exact ⟨_, (properties_ok_iff hvisit.steady').2 (.object hparts'), Part.like_violations hlike⟩
  | other hobject =>
    obtain ⟨declared', rfl, -⟩ := hvalue.exists_object
    exact ⟨_, (properties_ok_iff hvisit.steady').2 (.other (hv.ne_object hobject)),
      Contribution.like_nothing⟩

lemma matchingFields_carry {fields fields' : Fields}
    (hfields : Rearranged Value.ReorderedField fields fields') {source : String} {s s' : Value}
    (hs : Counterpart s s') {parts : List (Part String)}
    (h : (matchingFields visit fields source s).resultAt scope here = .ok parts) :
    ∃ parts', (matchingFields visit' fields' source s').resultAt scope here = .ok parts' ∧
      Rearranged Part.Like parts parts' := by
  obtain ⟨regex, hregex, hparts⟩ := (matchingFields_ok_iff hvisit.steady).1 h
  have hmatching : Rearranged Value.ReorderedField
      (fields.filter fun field => regex.isMatch field.1)
      (fields'.filter fun field => regex.isMatch field.1) :=
    hfields.filter fun field field' hfield => congrArg regex.isMatch hfield.1
  obtain ⟨parts', hparts', hlike⟩ := fieldParts_carry hvisit hmatching hs hparts
  exact ⟨parts', (matchingFields_ok_iff hvisit.steady').2 ⟨regex, hregex, hparts'⟩, hlike⟩

lemma patternProperties_carry (hv : v.Reordered v') (hvalue : Counterpart value value')
    (h : (patternProperties visit v value).resultAt scope here = .ok c) :
    ∃ c', (patternProperties visit' v' value').resultAt scope here = .ok c' ∧ c.Like c' := by
  cases (patternProperties_ok_iff hvisit.steady).1 h with
  | object hgroups =>
    obtain ⟨fields', rfl, -, hfields⟩ := Value.reordered_object_iff.1 hv
    obtain ⟨patterns', rfl, hpatterns⟩ := hvalue.exists_object
    obtain ⟨groups', hgroups', hlike⟩ := hpatterns.carry hgroups fun entry entry' parts hentry
      hparts => matchingFields_carry hvisit hfields hentry.2 (hentry.1 ▸ hparts)
    exact ⟨_, (patternProperties_ok_iff hvisit.steady').2 (.object hgroups'),
      Part.like_violations hlike.flatten⟩
  | other hobject =>
    obtain ⟨patterns', rfl, -⟩ := hvalue.exists_object
    exact ⟨_, (patternProperties_ok_iff hvisit.steady').2 (.other (hv.ne_object hobject)),
      Contribution.like_nothing⟩

lemma additionalProperties_carry {schema schema' : Fields}
    (hschema : Counterpart (.object schema) (.object schema')) (hv : v.Reordered v')
    (hvalue : Counterpart value value')
    (hread : ∀ fields, v = .object fields →
      ∀ source ∈ patternSources schema, (Regex.ofText? source).isSome)
    (h : (additionalProperties visit schema v value).resultAt scope here = .ok c) :
    ∃ c', (additionalProperties visit' schema' v' value').resultAt scope here = .ok c' ∧
      c.Like c' := by
  -- The keyword concerns the same fields, whatever their order.
  have hextras : ∀ {fields extras : Fields}, v = .object fields →
      (extraFields fields schema).resultAt scope here = .ok extras →
      ∃ fields' extras', v' = .object fields' ∧
        (extraFields fields' schema').resultAt scope here = .ok extras' ∧
        Rearranged Value.ReorderedField extras extras' := by
    rintro fields extras rfl hextras
    obtain ⟨fields', rfl, -, hfields⟩ := Value.reordered_object_iff.1 hv
    have hread := hread fields rfl
    rw [resultAt_extraFields (hschema.joins _ (.refl _)) hread] at hextras
    obtain rfl := Except.ok.inj hextras
    have hread' : ∀ source ∈ patternSources schema', (Regex.ofText? source).isSome :=
      fun source hsource =>
        hread source ((patternSources_perm hschema.reordered).mem_iff.2 hsource)
    refine ⟨fields', _, rfl, resultAt_extraFields (hschema.joins' _ (.refl _)) hread' _, ?_⟩
    exact hfields.filter fun field field' hfield => by
      rw [hfield.1, isLeftOver_eq hschema.reordered]
  cases (additionalProperties_ok_iff hvisit.steady).1 h with
  | visited hleft hparts =>
    obtain ⟨fields', extras', rfl, hleft', hrearranged⟩ := hextras rfl hleft
    obtain ⟨extra', rfl, -⟩ := hvalue.exists_object
    obtain ⟨parts', hparts', hlike⟩ := fieldParts_carry hvisit hrearranged hvalue hparts
    exact ⟨_, (additionalProperties_ok_iff hvisit.steady').2 (.visited hleft' hparts'),
      Part.like_violations hlike⟩
  | allowed hleft =>
    obtain ⟨fields', extras', rfl, hleft', -⟩ := hextras rfl hleft
    obtain rfl := hvalue.reordered.eq_of_leaf (by simp [Value.isContainer])
    exact ⟨_, (additionalProperties_ok_iff hvisit.steady').2 (.allowed hleft'),
      Contribution.like_nothing⟩
  | absent hleft hnil =>
    obtain ⟨fields', extras', rfl, hleft', hrearranged⟩ := hextras rfl hleft
    obtain rfl := hvalue.reordered.eq_of_leaf (by simp [Value.isContainer])
    exact ⟨_, (additionalProperties_ok_iff hvisit.steady').2
      (.absent hleft' (hrearranged.eq_nil_iff.1 hnil)), Contribution.like_nothing⟩
  | forbidden hleft hne =>
    obtain ⟨fields', extras', rfl, hleft', hrearranged⟩ := hextras rfl hleft
    obtain rfl := hvalue.reordered.eq_of_leaf (by simp [Value.isContainer])
    exact ⟨_, (additionalProperties_ok_iff hvisit.steady').2
      (.forbidden hleft' (mt hrearranged.eq_nil_iff.2 hne)), Contribution.like_ofMessage _ _⟩
  | other hobject hkind =>
    have hkind' := hvalue.reordered.view_eq (fun w => w.object?.isNone && w.bool?.isNone)
      (fun _ _ => rfl) (fun _ _ => rfl)
    exact ⟨_, (additionalProperties_ok_iff hvisit.steady').2
      (.other (hv.ne_object hobject) (hkind' ▸ hkind)), Contribution.like_nothing⟩

/-! ## Arrays -/

lemma items_carry (hv : v.Reordered v') (hvalue : Counterpart value value')
    (h : (items visit v value).resultAt scope here = .ok c) :
    ∃ c', (items visit' v' value').resultAt scope here = .ok c' ∧ c.Like c' := by
  cases (items_ok_iff hvisit.steady).1 h with
  | tuple hparts =>
    obtain ⟨vs', rfl, hvs⟩ := Value.reordered_array_iff.1 hv
    obtain ⟨schemas', rfl, hschemas⟩ := hvalue.exists_array
    obtain ⟨parts', hparts', hlike⟩ := itemParts_carry hvisit (forall₂_zip hvs hschemas) hparts
    exact ⟨_, (items_ok_iff hvisit.steady').2 (.tuple hparts'),
      Part.like_violations (.of_forall₂ hlike)⟩
  | visited hparts =>
    obtain ⟨vs', rfl, hvs⟩ := Value.reordered_array_iff.1 hv
    obtain ⟨schema', rfl, -⟩ := hvalue.exists_object
    obtain ⟨parts', hparts', hlike⟩ := itemParts_carry hvisit (pairs_forall₂ hvs hvalue) hparts
    exact ⟨_, (items_ok_iff hvisit.steady').2 (.visited hparts'),
      Part.like_violations (.of_forall₂ hlike)⟩
  | other hlist hkind =>
    have hkind' := hvalue.reordered.view_eq (fun w => w.object?.isNone && w.array?.isNone)
      (fun _ _ => rfl) (fun _ _ => rfl)
    exact ⟨_, (items_ok_iff hvisit.steady').2 (.other (hv.ne_array hlist) (hkind' ▸ hkind)),
      Contribution.like_nothing⟩

lemma additionalItems_carry {schema schema' : Fields}
    (hschema : (Value.object schema).Reordered (.object schema')) (hv : v.Reordered v')
    (hvalue : Counterpart value value')
    (h : (additionalItems visit schema v value).resultAt scope here = .ok c) :
    ∃ c', (additionalItems visit' schema' v' value').resultAt scope here = .ok c' ∧
      c.Like c' := by
  cases (additionalItems_ok_iff hvisit.steady).1 h with
  | visited htuple hparts =>
    obtain ⟨vs', rfl, hvs⟩ := Value.reordered_array_iff.1 hv
    obtain ⟨later', rfl, -⟩ := hvalue.exists_object
    obtain ⟨schemas', htuple', hlength⟩ := exists_tuple hschema htuple
    rw [hlength] at hparts
    obtain ⟨parts', hparts', hlike⟩ := itemParts_carry hvisit
      (pairs_forall₂ (List.forall₂_drop schemas'.length hvs) hvalue) hparts
    exact ⟨_, (additionalItems_ok_iff hvisit.steady').2 (.visited htuple' hparts'),
      Part.like_violations (.of_forall₂ hlike)⟩
  | allowed htuple =>
    obtain ⟨vs', rfl, -⟩ := Value.reordered_array_iff.1 hv
    obtain ⟨schemas', htuple', -⟩ := exists_tuple hschema htuple
    obtain rfl := hvalue.reordered.eq_of_leaf (by simp [Value.isContainer])
    exact ⟨_, (additionalItems_ok_iff hvisit.steady').2 (.allowed htuple'),
      Contribution.like_nothing⟩
  | absent htuple hnil =>
    obtain ⟨vs', rfl, hvs⟩ := Value.reordered_array_iff.1 hv
    obtain ⟨schemas', htuple', hlength⟩ := exists_tuple hschema htuple
    obtain rfl := hvalue.reordered.eq_of_leaf (by simp [Value.isContainer])
    rw [List.drop_eq_nil_iff, hvs.length_eq, hlength, ← List.drop_eq_nil_iff] at hnil
    exact ⟨_, (additionalItems_ok_iff hvisit.steady').2 (.absent htuple' hnil),
      Contribution.like_nothing⟩
  | forbidden htuple hne =>
    obtain ⟨vs', rfl, hvs⟩ := Value.reordered_array_iff.1 hv
    obtain ⟨schemas', htuple', hlength⟩ := exists_tuple hschema htuple
    obtain rfl := hvalue.reordered.eq_of_leaf (by simp [Value.isContainer])
    rw [ne_eq, List.drop_eq_nil_iff, hvs.length_eq, hlength, ← List.drop_eq_nil_iff] at hne
    exact ⟨_, (additionalItems_ok_iff hvisit.steady').2 (.forbidden htuple' hne),
      Contribution.like_ofMessage _ _⟩
  | other hlists hkind =>
    have hkind' := hvalue.reordered.view_eq (fun w => w.object?.isNone && w.bool?.isNone)
      (fun _ _ => rfl) (fun _ _ => rfl)
    refine ⟨_, (additionalItems_ok_iff hvisit.steady').2 (.other ?_ (hkind' ▸ hkind)),
      Contribution.like_nothing⟩
    -- An array and a list of schemas on one side make such a pair on the other one.
    rintro vs' schemas' rfl htuple'
    obtain ⟨vs, rfl, -⟩ := Value.reordered_array_iff.1 hv.symm
    obtain ⟨schemas, htuple, -⟩ := exists_tuple hschema.symm htuple'
    exact hlists vs schemas rfl htuple

/-! ## Combinations -/

/-- A branch that is visited with an outcome is visited with one that is alike. -/
lemma branch_carry {branch branch' : Value × Nat} {outcome : Nat × Outcome}
    (hv : v.Reordered v') (hbranch : Counterpart branch.1 branch'.1 ∧ branch.2 = branch'.2)
    (h : outcome.1 = branch.2 ∧
      visit.answer scope here ⟨[], [.index branch.2], v, branch.1⟩ = .ok outcome.2) :
    ∃ outcome' : Nat × Outcome, (outcome'.1 = branch'.2 ∧
      visit'.answer scope here ⟨[], [.index branch'.2], v', branch'.1⟩ = .ok outcome'.2) ∧
        outcome.2.Like outcome'.2 := by
  obtain ⟨o', hanswer', hlike⟩ := hvisit.answer hv hbranch.1 h.2
  exact ⟨(branch'.2, o'), ⟨rfl, hbranch.2 ▸ hanswer'⟩, hlike⟩

lemma branches_carry {k : Keyword} (hv : v.Reordered v') (hvalue : Counterpart value value')
    {outcomes : List (Nat × Outcome)}
    (h : (branches visit k v value).resultAt scope here = .ok outcomes) :
    ∃ outcomes', (branches visit' k v' value').resultAt scope here = .ok outcomes' ∧
      Rearranged LikeBranch outcomes outcomes' := by
  obtain ⟨schemas, rfl, hbranches⟩ := (branches_ok_iff hvisit.steady).1 h
  obtain ⟨schemas', rfl, hschemas⟩ := hvalue.exists_array
  obtain ⟨outcomes', hbranches', hlike⟩ := carry_forall₂ (forall₂_zipIdx hschemas 0) hbranches
    fun branch branch' outcome => branch_carry hvisit hv
  exact ⟨outcomes', (branches_ok_iff hvisit.steady').2 ⟨schemas', rfl, hbranches'⟩,
    .of_forall₂ hlike⟩

lemma allOf_carry (hv : v.Reordered v') (hvalue : Counterpart value value')
    (h : (allOf visit v value).resultAt scope here = .ok c) :
    ∃ c', (allOf visit' v' value').resultAt scope here = .ok c' ∧ c.Like c' := by
  obtain ⟨outcomes, houtcomes, rfl⟩ := (allOf_ok_iff hvisit.steady).1 h
  obtain ⟨outcomes', houtcomes', hlike⟩ :=
    branches_carry hvisit hv hvalue houtcomes
  refine ⟨_, (allOf_ok_iff hvisit.steady').2 ⟨outcomes', houtcomes', rfl⟩, ?_⟩
  rw [← hlike.isEmpty_eq]
  split
  · exact Contribution.like_nothing
  · exact like_allViolations hlike

lemma anyOf_carry (hv : v.Reordered v') (hvalue : Counterpart value value')
    (h : (anyOf visit v value).resultAt scope here = .ok c) :
    ∃ c', (anyOf visit' v' value').resultAt scope here = .ok c' ∧ c.Like c' := by
  obtain ⟨outcomes, houtcomes, hend⟩ := (anyOf_ok_iff hvisit.steady).1 h
  obtain ⟨outcomes', houtcomes', hlike⟩ :=
    branches_carry hvisit hv hvalue houtcomes
  have hpassing := like_passing hlike
  cases hend with
  | none hnil =>
    exact ⟨_, (anyOf_ok_iff hvisit.steady').2 ⟨outcomes', houtcomes',
      .none (hpassing.eq_nil_iff.1 hnil)⟩, like_noBranch v v' hlike⟩
  | some hne =>
    exact ⟨_, (anyOf_ok_iff hvisit.steady').2 ⟨outcomes', houtcomes',
      .some (mt hpassing.eq_nil_iff.2 hne)⟩, Rearranged.nil⟩

lemma oneOf_carry (hv : v.Reordered v') (hvalue : Counterpart value value')
    (h : (oneOf visit v value).resultAt scope here = .ok c) :
    ∃ c', (oneOf visit' v' value').resultAt scope here = .ok c' ∧ c.Like c' := by
  obtain ⟨outcomes, houtcomes, hend⟩ := (oneOf_ok_iff hvisit.steady).1 h
  obtain ⟨outcomes', houtcomes', hlike⟩ :=
    branches_carry hvisit hv hvalue houtcomes
  have hpassing := like_passing hlike
  cases hend with
  | none hnil =>
    exact ⟨_, (oneOf_ok_iff hvisit.steady').2 ⟨outcomes', houtcomes',
      .none (hpassing.eq_nil_iff.1 hnil)⟩, like_noBranch v v' hlike⟩
  | one hone =>
    rw [hone] at hpassing
    obtain ⟨⟨i', o'⟩, hone'⟩ := List.length_eq_one_iff.1 hpassing.length_eq.symm
    rw [hone'] at hpassing
    obtain ⟨outcome', hmem, hlike⟩ := hpassing.exists_right List.mem_cons_self
    obtain rfl := List.mem_singleton.1 hmem
    exact ⟨_, (oneOf_ok_iff hvisit.steady').2 ⟨outcomes', houtcomes', .one hone'⟩, hlike⟩
  | several hne hone =>
    refine ⟨_, (oneOf_ok_iff hvisit.steady').2 ⟨outcomes', houtcomes',
      .several (mt hpassing.eq_nil_iff.2 hne) fun outcome' hone' => ?_⟩,
      Contribution.like_ofMessage _ _⟩
    -- A single branch on one side is a single one on the other side.
    rw [hone'] at hpassing
    obtain ⟨outcome, hsingle⟩ := List.length_eq_one_iff.1 hpassing.length_eq
    exact hone outcome hsingle

lemma not_carry (hv : v.Reordered v') (hvalue : Counterpart value value')
    (h : (not visit v value).resultAt scope here = .ok c) :
    ∃ c', (not visit' v' value').resultAt scope here = .ok c' ∧ c.Like c' := by
  obtain ⟨o, ho, hend⟩ := (not_ok_iff hvisit.steady).1 h
  obtain ⟨o', ho', hlike⟩ := hvisit.carry hv hvalue ho
  cases hend with
  | taken hnil =>
    exact ⟨_, (not_ok_iff hvisit.steady').2 ⟨o', ho', .taken (hlike.eq_nil_iff.1 hnil)⟩,
      Contribution.like_ofMessage _ _⟩
  | refused hne =>
    exact ⟨_, (not_ok_iff hvisit.steady').2 ⟨o', ho', .refused (mt hlike.eq_nil_iff.2 hne)⟩,
      Contribution.like_nothing⟩

end

/-! ## Texts, constraints and references -/

lemma constraint_carry {messages messages' : Constraint.Messages}
    (hlike : messages.Like messages')
    (h : (constraint messages).resultAt scope here = .ok c) :
    ∃ c', (constraint messages').resultAt scope here = .ok c' ∧ c.Like c' := by
  rcases messages with e | ms
  · exact absurd (show Except.error e = Except.ok c from h) (by simp)
  · obtain rfl := Except.ok.inj (show Except.ok _ = Except.ok c from h)
    rcases messages' with e | ms'
    · exact absurd hlike (by simp [Constraint.Messages.Like, Except.map])
    · -- There are as many messages on the other side, whatever they say.
      have hlength : ms.length = ms'.length := Except.ok.inj hlike
      have hpairs : List.Forall₂ (fun _ _ => True) ms ms' :=
        List.forall₂_iff_zip.2 ⟨hlength, fun _ => trivial⟩
      exact ⟨_, rfl, (Rearranged.of_forall₂ hpairs).map fun message message' _ =>
        Violation.like_ofMessage message message'⟩

lemma pattern_carry (hv : v.Reordered v') (hvalue : value.Reordered value')
    (h : (pattern v value).resultAt scope here = .ok c) :
    ∃ c', (pattern v' value').resultAt scope here = .ok c' ∧ c.Like c' := by
  obtain ⟨source, rfl, hend⟩ := pattern_ok h
  obtain rfl := hvalue.eq_of_leaf (by simp [Value.isContainer])
  have hlike : c.Like c := by
    rcases hend with ⟨s, regex, -, -, ⟨-, rfl⟩ | ⟨-, message, rfl⟩⟩ | ⟨-, rfl⟩
    · exact Contribution.like_nothing
    · exact Contribution.like_ofMessage _ _
    · exact Contribution.like_nothing
  cases hv.alike with
  | array => exact ⟨c, h, hlike⟩
  | object => exact ⟨c, h, hlike⟩
  | leaf => exact ⟨c, h, hlike⟩

lemma format_carry (hformats : formats.IgnoreOrder) (hv : v.Reordered v')
    (hvalue : value.Reordered value')
    (h : (format ⟨store, formats, false⟩ v value).resultAt scope here = .ok c) :
    ∃ c', (format ⟨store', formats, false⟩ v' value').resultAt scope here = .ok c' ∧ c.Like c' := by
  obtain ⟨name, rfl, hend⟩ := format_ok h
  obtain rfl := hvalue.eq_of_leaf (by simp [Value.isContainer])
  have hverdict := hformats name v v' hv
  rw [format]
  rcases hend with ⟨change, hcheck, rfl⟩ | ⟨fault, message, hcheck, rfl⟩
  · cases hcheck' : formats.check name v' with
    | ok change' => exact ⟨_, rfl, Rearranged.nil⟩
    | error fault' => simp [hcheck, hcheck', Except.isOk, Except.toBool] at hverdict
  · cases hcheck' : formats.check name v' with
    | ok change' => simp [hcheck, hcheck', Except.isOk, Except.toBool] at hverdict
    | error fault' =>
      exact ⟨_, rfl, .of_forall₂ (.cons (Violation.like_iff.2 ⟨rfl, rfl, rfl, .nil⟩) .nil)⟩

lemma ref_carry {follow follow' : Follow} (hfollow : follow.Carries follow')
    (hv : v.Reordered v') (hvalue : value.Reordered value')
    (h : (ref follow v value).resultAt scope here = .ok c) :
    ∃ c', (ref follow' v' value').resultAt scope here = .ok c' ∧ c.Like c' := by
  obtain ⟨reference, o, rfl, ho, rfl⟩ := (ref_ok_iff hfollow.steady).1 h
  obtain rfl := hvalue.eq_of_leaf (by simp [Value.isContainer])
  obtain ⟨o', ho', hlike⟩ := hfollow.carry hv ho
  exact ⟨_, (ref_ok_iff hfollow.steady').2 ⟨reference, o', rfl, ho', rfl⟩, hlike⟩

end Applicator

open Applicator Constraint in
/-- **What a keyword contributes does not depend on the order of keys**, as long as this holds of
the visits that it makes. -/
theorem Keyword.contribution_carry {store store' : Store} {formats : Formats}
    (hformats : formats.IgnoreOrder) {follow follow' : Follow} (hfollow : follow.Carries follow')
    {visit visit' : Visit} (hvisit : visit.Carries visit')
    {schema schema' : Fields} (hschema : Counterpart (.object schema) (.object schema'))
    {v v' value value' : Value} (hv : v.Reordered v') (hvalue : Counterpart value value')
    {k : Keyword}
    (hread : k = .additionalProperties → ∀ fields, v = .object fields →
      ∀ source ∈ patternSources schema, (Regex.ofText? source).isSome)
    {scope : String} {here : List String} {c : Contribution}
    (h : (k.contribution ⟨store, formats, false⟩ follow visit schema v value).resultAt scope here =
      .ok c) :
    ∃ c', (k.contribution ⟨store', formats, false⟩ follow' visit' schema' v' value').resultAt scope
      here = .ok c' ∧ c.Like c' := by
  have hr := hvalue.reordered
  cases k with
  | ref => exact ref_carry hfollow hv hr h
  | type => exact constraint_carry (type_like hv hr) h
  | enum => exact constraint_carry (enum_like hv hr) h
  | minLength => exact constraint_carry (atLeast_like (characters_eq hv) hr _ _ _) h
  | maxLength => exact constraint_carry (atMost_like (characters_eq hv) hr _ _ _) h
  | pattern => exact pattern_carry hv hr h
  | minimum => exact constraint_carry (minimum_like hschema.reordered hv hr) h
  | maximum => exact constraint_carry (maximum_like hschema.reordered hv hr) h
  | multipleOf => exact constraint_carry (multipleOf_like hv hr) h
  | properties => exact properties_carry hvisit hv hvalue h
  | patternProperties => exact patternProperties_carry hvisit hv hvalue h
  | additionalProperties =>
    exact additionalProperties_carry hvisit hschema hv hvalue (hread rfl) h
  | required => exact constraint_carry (required_like hv hr) h
  | minProperties => exact constraint_carry (atLeast_like (fieldCount_eq hv) hr _ _ _) h
  | maxProperties => exact constraint_carry (atMost_like (fieldCount_eq hv) hr _ _ _) h
  | dependencies => simp [contribution] at h
  | items => exact items_carry hvisit hv hvalue h
  | additionalItems =>
    exact additionalItems_carry hvisit hschema.reordered hv hvalue h
  | minItems => exact constraint_carry (atLeast_like (itemCount_eq hv) hr _ _ _) h
  | maxItems => exact constraint_carry (atMost_like (itemCount_eq hv) hr _ _ _) h
  | uniqueItems => exact constraint_carry (uniqueItems_like hv hr) h
  | allOf => exact allOf_carry hvisit hv hvalue h
  | anyOf => exact anyOf_carry hvisit hv hvalue h
  | oneOf => exact oneOf_carry hvisit hv hvalue h
  | not => exact not_carry hvisit hv hvalue h
  | format => exact format_carry hformats hv hr h

end ApiContract
