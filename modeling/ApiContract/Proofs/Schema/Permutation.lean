/-
# Validation and the order of keys

The keys of objects come in an order that means nothing, neither in a value nor in a schema nor in
the documents of a store.  In another order a validation comes to a good end just if it does so
in the given one, and it finds the same violations; only the wording of their messages and the
order in which they are listed may differ.

What is carried over goes up from the keywords: to the schemas that hold them, to the references
that lead to schemas, and to visits of any depth.
-/
import ApiContract.Proofs.Schema.KeyOrder
import ApiContract.Proofs.Schema.Reach

namespace ApiContract

open Value (Counterpart)

/-! ## Stores -/

namespace Store

/-- A store is another one with the keys in its documents in another order. -/
structure Reordered (store store' : Store) : Prop where
  /-- The root documents have the same URI. -/
  baseUri_eq : store.baseUri = store'.baseUri
  /-- The documents are reordered one by one. -/
  documents : List.Forall₂ Value.ReorderedField store.documents store'.documents

/-- The patterns in every document can be joined. -/
def JoinsPatterns (store : Store) : Prop :=
  ∀ entry ∈ store.documents, entry.2.JoinsPatterns

/-- A store and the same store with its keys in another order; the patterns in both can be
joined. -/
structure Counterpart (store store' : Store) : Prop where
  /-- Only the keys come in another order. -/
  reordered : store.Reordered store'
  /-- The patterns of the one can be joined. -/
  joins : store.JoinsPatterns
  /-- The patterns of the other can be joined. -/
  joins' : store'.JoinsPatterns

variable {store store' : Store}

lemma Reordered.symm (h : store.Reordered store') : store'.Reordered store where
  baseUri_eq := h.baseUri_eq.symm
  documents := (h.documents.imp fun _ _ hentry =>
    (⟨hentry.1.symm, hentry.2.symm⟩ : Value.ReorderedField _ _)).flip

lemma Counterpart.symm (h : store.Counterpart store') : store'.Counterpart store :=
  ⟨h.reordered.symm, h.joins', h.joins⟩

lemma Reordered.size_eq (h : store.Reordered store') : store.size = store'.size := by
  have hsizes : store.documents.map (fun entry => entry.2.size) =
      store'.documents.map (fun entry => entry.2.size) := by
    rw [← List.forall₂_eq_eq_eq, List.forall₂_map_left_iff, List.forall₂_map_right_iff]
    exact h.documents.imp fun _ _ hentry => hentry.2.size_eq
  exact congrArg (List.foldr (· + ·) 0) hsizes

lemma exists_lookup {documents documents' : List (String × Value)} {uri : String} {v : Value}
    (h : List.Forall₂ Value.ReorderedField documents documents')
    (hv : documents.lookup uri = some v) :
    ∃ v', documents'.lookup uri = some v' ∧ v.Reordered v' := by
  induction h with
  | nil => simp at hv
  | @cons entry entry' _ _ hentry _ ih =>
    obtain ⟨key, w⟩ := entry
    obtain ⟨key', w'⟩ := entry'
    obtain ⟨rfl, hw⟩ := hentry
    by_cases hkey : uri = key
    · subst hkey
      rw [List.lookup_cons_self, Option.some.injEq] at hv
      exact ⟨w', List.lookup_cons_self, hv ▸ hw⟩
    · rw [List.lookup_cons, beq_false_of_ne hkey] at hv ⊢
      exact ih hv

/-- A URL names what it names, with the keys in another order. -/
lemma Counterpart.exists_resolveUrl (h : store.Counterpart store') {url : String} {target : Value}
    (htarget : store.resolveUrl url = .ok target) :
    ∃ target', store'.resolveUrl url = .ok target' ∧ target.Counterpart target' := by
  have hfound := htarget
  rw [resolveUrl_eq] at hfound
  split at hfound
  · rename_i document hlookup
    obtain ⟨document', hlookup', hdocument⟩ := exists_lookup h.reordered.documents hlookup
    rw [resolvePointer] at hfound
    split at hfound
    · rename_i w hw
      obtain rfl := Except.ok.inj hfound
      obtain ⟨w', hw', hr⟩ := Pointer.exists_resolve? hdocument hw
      have htarget' : store'.resolveUrl url = .ok w' := by
        rw [resolveUrl_eq, hlookup']
        simp only [resolvePointer, hw']
      -- Both targets are inside documents.
      obtain ⟨entry, hentry, -, hcontains⟩ := exists_document_of_resolveUrl htarget
      obtain ⟨entry', hentry', -, hcontains'⟩ := exists_document_of_resolveUrl htarget'
      exact ⟨w', htarget', hr, (h.joins entry hentry).contains hcontains,
        (h.joins' entry' hentry').contains hcontains'⟩
    · simp at hfound
  · simp at hfound

end Store

lemma Applicator.follow_carries {store store' : Store} (hstore : store.Counterpart store')
    {visit visit' : Visit} (hvisit : visit.Carries visit') :
    (follow store visit).Carries (follow store' visit') where
  steady := follow_steady store hvisit.steady
  steady' := follow_steady store' hvisit.steady'
  carry hv ho := by
    obtain ⟨target, htarget, hnot, ho⟩ := (follow_ok_iff hvisit.steady).1 ho
    obtain ⟨target', htarget', hcounterpart⟩ := hstore.exists_resolveUrl htarget
    obtain ⟨o', ho', hlike⟩ := hvisit.carry hv hcounterpart ho
    exact ⟨o', (follow_ok_iff hvisit.steady').2 ⟨target', htarget', hnot, ho'⟩, hlike⟩

/-! ## Schemas -/

namespace Validator

open Walk

/-- The keywords of a schema come in the order of evaluation, whatever the order of keys. -/
lemma keywordsOf_forall₂ {fields fields' : Fields}
    (h : Counterpart (.object fields) (.object fields')) :
    List.Forall₂ (fun entry entry' => entry.1 = entry'.1 ∧ Counterpart entry.2 entry'.2)
      (keywordsOf fields) (keywordsOf fields') := by
  unfold keywordsOf
  induction Keyword.order with
  | nil => exact .nil
  | cons k ks ih =>
    rw [List.filterMap_cons, List.filterMap_cons]
    cases hlookup : fields.lookup k.name with
    | none =>
      rw [h.reordered.lookup_eq_none_iff.1 hlookup]
      exact ih
    | some value =>
      obtain ⟨value', hlookup', hvalue⟩ := h.exists_lookup hlookup
      rw [hlookup']
      exact .cons ⟨rfl, hvalue⟩ ih

/-- The sources of patterns are the keys of what stands under `patternProperties`. -/
lemma exists_patterns {fields : Fields} {source : String}
    (h : source ∈ Applicator.patternSources fields) :
    ∃ patterns, fields.lookup Keyword.patternProperties.name = some (.object patterns) ∧
      source ∈ Fields.keys patterns := by
  rw [Applicator.patternSources] at h
  cases hlookup : fields.lookup Keyword.patternProperties.name with
  | none => simp [hlookup] at h
  | some value =>
    rcases value.object_or with ⟨patterns, rfl⟩ | hnot
    · rw [hlookup] at h
      exact ⟨patterns, rfl, h⟩
    · cases value <;> simp_all [Value.object?]

/-- Where `patternProperties` comes to a good end for an object, its patterns can be read. -/
lemma isSome_of_patternProperties {visit : Visit} (hvisit : visit.Steady) {scope : String}
    {here : List String} {fields patterns : Fields} {c : Contribution}
    (h : (Applicator.patternProperties visit (.object fields) (.object patterns)).resultAt scope
      here = .ok c) {source : String} (hsource : source ∈ Fields.keys patterns) :
    (Regex.ofText? source).isSome := by
  cases (Applicator.patternProperties_ok_iff hvisit).1 h with
  | object hgroups =>
    obtain ⟨entry, hentry, rfl⟩ := List.mem_map.1 hsource
    obtain ⟨parts, -, hparts⟩ := exists_right_of_forall₂ hgroups hentry
    obtain ⟨regex, hregex, -⟩ := (Applicator.matchingFields_ok_iff hvisit).1 hparts
    rw [hregex, Option.isSome_some]
  | other hobject => exact absurd rfl (hobject fields)

section

variable {store store' : Store} {formats : Formats} (hformats : formats.IgnoreOrder)
  {follow follow' : Follow} (hfollow : follow.Carries follow') {visit visit' : Visit}
  (hvisit : visit.Carries visit') {scope : String} {here : List String} {fields fields' : Fields}
  (hschema : Counterpart (.object fields) (.object fields')) {v v' : Value}
  (hv : v.Reordered v')

include hformats hfollow hvisit hschema hv

lemma visitKeyword_carry {k : Keyword} {value value' : Value} (hvalue : Counterpart value value')
    (hread : k = .additionalProperties → ∀ object, v = .object object →
      ∀ source ∈ Applicator.patternSources fields, (Regex.ofText? source).isSome) {o : Outcome}
    (ho : (visitKeyword ⟨store, formats, false⟩ follow visit v fields k value).resultAt scope
      here = .ok o) :
    ∃ o', (visitKeyword ⟨store', formats, false⟩ follow' visit' v' fields' k value').resultAt scope
      here = .ok o' ∧ o.Like o' := by
  obtain ⟨c, hc, rfl⟩ := (visitKeyword_ok_iff hfollow.steady hvisit.steady).1 ho
  obtain ⟨c', hc', hlike⟩ :=
    Keyword.contribution_carry hformats hfollow hvisit hschema hv hvalue hread hc
  exact ⟨_, (visitKeyword_ok_iff hfollow.steady' hvisit.steady').2 ⟨c', hc', rfl⟩,
    hlike.map fun _ _ hviolation => hviolation.tagged k⟩

/-- An entry of a schema that comes to a good end does so in its counterpart. -/
lemma visitEntry_carry
    (hread : ∀ object, v = .object object →
      ∀ source ∈ Applicator.patternSources fields, (Regex.ofText? source).isSome)
    {entry entry' : Keyword × Value} {outcome : Keyword × Outcome}
    (hentry : entry.1 = entry'.1 ∧ Counterpart entry.2 entry'.2)
    (ho : outcome.1 = entry.1 ∧
      (visitKeyword ⟨store, formats, false⟩ follow visit v fields entry.1 entry.2).resultAt scope
        here = .ok outcome.2) :
    ∃ outcome' : Keyword × Outcome, (outcome'.1 = entry'.1 ∧
      (visitKeyword ⟨store', formats, false⟩ follow' visit' v' fields' entry'.1 entry'.2).resultAt
        scope here = .ok outcome'.2) ∧ outcome.2.Like outcome'.2 := by
  obtain ⟨o', ho', hlike⟩ :=
    visitKeyword_carry hformats hfollow hvisit hschema hv hentry.2 (fun _ => hread) ho.2
  exact ⟨(entry'.1, o'), ⟨rfl, hentry.1 ▸ ho'⟩, hlike⟩

lemma visitKeywords_carry {o : Outcome}
    (ho : (visitKeywords ⟨store, formats, false⟩ follow visit v fields).resultAt scope here =
      .ok o) :
    ∃ o', (visitKeywords ⟨store', formats, false⟩ follow' visit' v' fields').resultAt scope here =
      .ok o' ∧ o.Like o' := by
  obtain ⟨outcomes, houtcomes, rfl⟩ :=
    (visitKeywords_ok_iff hfollow.steady hvisit.steady).1 ho
  -- The patterns beside `additionalProperties` have been read by a keyword of their own.
  have hread : ∀ object, v = .object object →
      ∀ source ∈ Applicator.patternSources fields, (Regex.ofText? source).isSome := by
    rintro object rfl source hsource
    obtain ⟨patterns, hlookup, hkey⟩ := exists_patterns hsource
    obtain ⟨⟨k, o⟩, -, rfl, ho⟩ :=
      exists_right_of_forall₂ houtcomes (Keyword.mem_keywordsOf.2 hlookup)
    obtain ⟨c, hc, -⟩ := (visitKeyword_ok_iff hfollow.steady hvisit.steady).1 ho
    exact isSome_of_patternProperties hvisit.steady hc hkey
  obtain ⟨outcomes', houtcomes', hlike⟩ := carry_forall₂ (keywordsOf_forall₂ hschema) houtcomes
    fun _ _ _ => visitEntry_carry hformats hfollow hvisit hschema hv hread
  exact ⟨_, (visitKeywords_ok_iff hfollow.steady' hvisit.steady').2
    ⟨outcomes', houtcomes', rfl⟩, (Rearranged.of_forall₂ hlike).flatMap fun _ _ hlike => hlike⟩

lemma visitFields_carry {o : Outcome}
    (ho : (visitFields ⟨store, formats, false⟩ follow visit v fields).resultAt scope here =
      .ok o) :
    ∃ o', (visitFields ⟨store', formats, false⟩ follow' visit' v' fields').resultAt scope here =
      .ok o' ∧ o.Like o' := by
  have hnull : v.isNull = v'.isNull := hv.view_eq Value.isNull (fun _ _ => rfl) (fun _ _ => rfl)
  have hnullable : isNullable fields = isNullable fields' := by
    rw [isNullable, isNullable,
      hschema.reordered.lookup_bind_eq Value.bool? (fun _ _ => rfl) (fun _ _ => rfl)]
  cases visitFields_ok_iff.1 ho with
  | ref href ho =>
    obtain ⟨value', href', hvalue⟩ := hschema.exists_lookup href
    obtain ⟨o', ho', hlike⟩ :=
      visitKeyword_carry hformats hfollow hvisit hschema hv hvalue (by simp) ho
    exact ⟨o', visitFields_ok_iff.2 (.ref href' ho'), hlike⟩
  | null href hisNull hisNullable heq =>
    refine ⟨_, visitFields_ok_iff.2 (.null (hschema.reordered.lookup_eq_none_iff.1 href)
      (hnull ▸ hisNull) (hnullable ▸ hisNullable) rfl), ?_⟩
    rw [heq]
    exact Rearranged.nil
  | keywords href hnot ho =>
    obtain ⟨o', ho', hlike⟩ := visitKeywords_carry hformats hfollow hvisit hschema hv ho
    exact ⟨o', visitFields_ok_iff.2 (.keywords (hschema.reordered.lookup_eq_none_iff.1 href)
      (hnull ▸ hnullable ▸ hnot) ho'), hlike⟩

end

/-! ## Visits -/

section

variable {store store' : Store} {formats : Formats}

/-- A visit of any depth comes to a good end with the keys in another order, if it does so. -/
lemma visit_carries (hformats : formats.IgnoreOrder) (hstore : store.Counterpart store')
    (n : Nat) :
    ((Validator.mk store formats false).visit n).Carries
      ((Validator.mk store' formats false).visit n) := by
  induction n with
  | zero => exact ⟨visit_steady _ 0, visit_steady _ 0, fun _ _ ho => absurd ho visit_zero_ne_ok⟩
  | succ n ih =>
    refine ⟨visit_steady _ (n + 1), visit_steady _ (n + 1), ?_⟩
    intro scope here v v' s s' o hv hs ho
    have hfollow := Applicator.follow_carries hstore ih
    obtain ⟨fields, rfl, hfields⟩ := (visitNode_ok_iff hfollow.steady ih.steady).1 ho
    obtain ⟨fields', rfl, -⟩ := hs.exists_object
    obtain ⟨o', ho', hlike⟩ := visitFields_carry hformats hfollow ih hs hv hfields
    -- Both schemas open the same scope.
    have hscope : scopeInside scope fields = scopeInside scope fields' := by
      rw [scopeInside, scopeInside,
        hs.reordered.lookup_bind_eq Value.string? (fun _ _ => rfl) (fun _ _ => rfl)]
    rw [hscope] at ho'
    exact ⟨o', (visitNode_ok_iff hfollow.steady' ih.steady').2 ⟨fields', rfl, ho'⟩, hlike⟩

/-- What is found in the given order is found in another one. -/
lemma violationsOf_carry (hformats : formats.IgnoreOrder) (hstore : store.Counterpart store')
    {v v' schema schema' : Value} (hv : v.Reordered v') (hschema : Counterpart schema schema')
    {vs : List Violation}
    (hvs : (Validator.mk store formats false).violationsOf v schema = .ok vs) :
    ∃ vs', (Validator.mk store' formats false).violationsOf v' schema' = .ok vs' ∧
      Rearranged Violation.Like vs vs' := by
  obtain ⟨o, ho, rfl⟩ := violationsOf_eq_ok_iff.1 hvs
  obtain ⟨o', ho', hlike⟩ := (visit_carries hformats hstore _).carry hv hschema ho
  have hdepth : (Validator.mk store formats false).visitDepth v schema =
      (Validator.mk store' formats false).visitDepth v' schema' := by
    simp only [visitDepth, hstore.reordered.size_eq, hv.size_eq, hschema.reordered.size_eq]
  rw [hdepth, hstore.reordered.baseUri_eq] at ho'
  exact ⟨o'.violations, violationsOf_eq_ok_iff.2 ⟨o', ho', rfl⟩, hlike⟩

/-- **The order of keys does not matter.**  Let the keys of objects be put into another order, at
whatever depth, in a value, in its schema and in the documents of the store, where patterns that
are joined match what one of them matches.  Then a validation that does not fill in defaults comes
to a good end in the one order if and only if it does so in the other one, and it reports
violations of the same subjects, those in their contexts included, each as many times.  Checks of
formats may be anything that does not tell the orders apart, such as those of the dialects
(`Dialect.ignoreOrder_formats`). -/
theorem violationsOf_reordered (hformats : formats.IgnoreOrder) {v v' schema schema' : Value}
    (hstore : store.Reordered store') (hv : v.Reordered v') (hschema : schema.Reordered schema')
    (hjoins : store.JoinsPatterns ∧ schema.JoinsPatterns)
    (hjoins' : store'.JoinsPatterns ∧ schema'.JoinsPatterns) :
    ((∃ vs, (Validator.mk store formats false).violationsOf v schema = .ok vs) ↔
      ∃ vs', (Validator.mk store' formats false).violationsOf v' schema' = .ok vs') ∧
    ∀ vs vs', (Validator.mk store formats false).violationsOf v schema = .ok vs →
      (Validator.mk store' formats false).violationsOf v' schema' = .ok vs' →
      (Violation.subjectsIn vs).Perm (Violation.subjectsIn vs') := by
  have hstores : store.Counterpart store' := ⟨hstore, hjoins.1, hjoins'.1⟩
  have hschemas : Counterpart schema schema' := ⟨hschema, hjoins.2, hjoins'.2⟩
  refine ⟨⟨fun ⟨vs, hvs⟩ => ?_, fun ⟨vs', hvs'⟩ => ?_⟩, fun vs vs' hvs hvs' => ?_⟩
  · obtain ⟨vs', hvs', -⟩ := violationsOf_carry hformats hstores hv hschemas hvs
    exact ⟨vs', hvs'⟩
  · obtain ⟨vs, hvs, -⟩ := violationsOf_carry hformats hstores.symm hv.symm hschemas.symm hvs'
    exact ⟨vs, hvs⟩
  · obtain ⟨ws, hws, hlike⟩ := violationsOf_carry hformats hstores hv hschemas hvs
    obtain rfl := Except.ok.inj (hvs'.symm.trans hws)
    exact Violation.subjectsIn_perm hlike

end

end Validator

namespace KeyOrder

/-- A schema with two patterns that takes no other fields, and with branches that ask for a field
or for few of them. -/
def schema : Value := .object [
  ("patternProperties", .object [
    ("^a", .object [("type", .string "string")]),
    ("^b", .object [("type", .string "integer")])]),
  ("additionalProperties", .bool false),
  ("anyOf", .array [
    .object [("required", .array [.string "c"])],
    .object [("maxProperties", .integer 1)]])]

/-- A value with a field for each pattern and another one. -/
def value : Value := .object [("a", .integer 1), ("b", .bool true), ("d", .null)]

/-- A validator for a store with one document. -/
def validator (root : Value) : Validator := Dialect.oas3.validator (.ofRoot "" root)

/-- The violations that are found. -/
def found : Except SchemaError (List Violation) :=
  (validator schema).violationsOf value schema

/-- The violations that are found with all keys in reverse. -/
def foundReversed : Except SchemaError (List Violation) :=
  (validator schema.reverseKeys).violationsOf value.reverseKeys schema.reverseKeys

lemma joinsPatterns_schema : schema.JoinsPatterns ∧ schema.reverseKeys.JoinsPatterns := by
  simp only [schema, Value.reverseKeys, Value.reverseItems, Value.reverseFields,
    List.reverse_cons, List.reverse_nil, List.nil_append, List.cons_append,
    Value.joinsPatterns_object_iff, Value.joinsPatterns_array_iff, List.forall_mem_cons,
    List.not_mem_nil, false_imp_iff, implies_true, and_true]
  and_intros
  all_goals first
    | exact Value.joinsPatterns_of_leaf (by decide)
    | exact Fields.joinsPatterns_of_no_sources rfl
    | exact Fields.joinsPatterns_of_joinable (by decide) (by decide +kernel)

end KeyOrder

/-- With all keys in reverse the same violations are found, those of the branches among them, but
they are listed in another order. -/
theorem reversed_keys_violate_alike :
    ∃ vs vs', KeyOrder.found = .ok vs ∧ KeyOrder.foundReversed = .ok vs' ∧
      (Violation.subjectsIn vs).length = 6 ∧
      Violation.subjectsIn vs ≠ Violation.subjectsIn vs' ∧
      (Violation.subjectsIn vs).Perm (Violation.subjectsIn vs') := by
  have hschema : KeyOrder.schema.Reordered KeyOrder.schema.reverseKeys :=
    Value.reordered_reverseKeys rfl
  have hvalue : KeyOrder.value.Reordered KeyOrder.value.reverseKeys :=
    Value.reordered_reverseKeys rfl
  have hstore : (Store.ofRoot "" KeyOrder.schema).Reordered
      (Store.ofRoot "" KeyOrder.schema.reverseKeys) :=
    ⟨rfl, .cons ⟨rfl, hschema⟩ .nil⟩
  obtain ⟨hjoins, hjoins'⟩ := KeyOrder.joinsPatterns_schema
  obtain ⟨hends, hperm⟩ := Validator.violationsOf_reordered Dialect.oas3.ignoreOrder_formats hstore
    hvalue hschema ⟨fun entry hentry => List.mem_singleton.1 hentry ▸ hjoins, hjoins⟩
    ⟨fun entry hentry => List.mem_singleton.1 hentry ▸ hjoins', hjoins'⟩
  have hcount : (fun vs => (Violation.subjectsIn vs).length) <$> KeyOrder.found = .ok 6 := by
    decide +kernel
  have hdiffer : Violation.subjectsIn <$> KeyOrder.found ≠
      Violation.subjectsIn <$> KeyOrder.foundReversed := by
    decide +kernel
  obtain ⟨vs, hvs, hlength⟩ := Except.map_eq_ok_iff.1 hcount
  obtain ⟨vs', hvs'⟩ := hends.1 ⟨vs, hvs⟩
  refine ⟨vs, vs', hvs, hvs', hlength, fun heq => hdiffer ?_, hperm vs vs' hvs hvs'⟩
  rw [hvs, show KeyOrder.foundReversed = .ok vs' from hvs']
  exact congrArg Except.ok heq

end ApiContract
