/-
# Filling decides nothing

Keywords look at the value as it was given, never at what other keywords have made of it, and a
default without parts is taken on trust.  So as long as no default with parts is offered for a
property, a validation that fills missing properties finds what a validation that leaves them
missing finds.

The second run repeats the first one visit by visit: wherever the first comes to a good end, so
does the second, with the same violations.
-/
import ApiContract.Proofs.Schema.Defaults
import ApiContract.Proofs.Schema.Plan

namespace ApiContract

/-! ## Results that are repeated -/

/-- A second result repeats a first one, as far as it is looked at: if the first is a good end,
then so is the second, and they look the same. -/
def Repeats {ε α γ : Type} (seen : α → γ) (first second : Except ε α) : Prop :=
  ∀ a, first = .ok a → ∃ b, second = .ok b ∧ seen b = seen a

/-- The answers to some asks are repeated by other visits, as far as their violations go. -/
def Visit.RepeatedBy (visit visit' : Visit) (scope : String) (here : List String)
    (asks : Ask → Prop) : Prop :=
  ∀ a, asks a →
    Repeats Outcome.violations (visit.answer scope here a) (visit'.answer scope here a)

lemma Visit.answer_repeated {visit visit' : Visit} {scope : String} {here : List String} {a : Ask}
    (h : Repeats Outcome.violations
      ((visit a.value a.schema).resultAt scope (if a.path = [] then here else []))
      ((visit' a.value a.schema).resultAt scope (if a.path = [] then here else []))) :
    Repeats Outcome.violations (visit.answer scope here a) (visit'.answer scope here a) := by
  intro o hanswer
  obtain ⟨o, ho, rfl⟩ := Visit.answer_eq_ok_iff.1 hanswer
  obtain ⟨o', ho', hviolations⟩ := h o ho
  refine ⟨_, Visit.answer_eq_ok_iff.2 ⟨o', ho', rfl⟩, ?_⟩
  rw [Outcome.under, Outcome.under]
  dsimp only
  rw [hviolations]

/-- An outcome of a branch, as far as its violations go. -/
def Applicator.verdict (o : Nat × Outcome) : Nat × List Violation :=
  (o.1, o.2.violations)

namespace Applicator

variable {val : Validator} {visit visit' : Visit} {scope : String} {here : List String}
  {schema : Fields} {v value : Value}

/-! ## Parts are repeated -/

lemma violations_congr {κ : Type} {parts parts' : List (Part κ)}
    (h : parts'.map (·.outcome.violations) = parts.map (·.outcome.violations)) :
    Part.violations parts' = Part.violations parts := by
  rw [Part.violations, Part.violations, List.flatMap_def, List.flatMap_def, h]

lemma violations_flatten {κ : Type} (groups : List (List (Part κ))) :
    Part.violations groups.flatten = (groups.map Part.violations).flatten := by
  induction groups with
  | nil => rfl
  | cons parts groups ih =>
    rw [List.flatten_cons, List.map_cons, List.flatten_cons, ← ih]
    exact List.flatMap_append

/-- Parts that are visited are repeated if the visits are. -/
lemma exchange_parts {κ γ : Type} {place : γ → κ} {ask : γ → Ask} {l : List γ}
    {parts : List (Part κ)}
    (h : List.Forall₂ (fun c p => p.place = place c ∧
      visit.answer scope here (ask c) = .ok p.outcome) l parts) {asks : Ask → Prop}
    (hrepeated : visit.RepeatedBy visit' scope here asks) (hasks : ∀ c ∈ l, asks (ask c)) :
    ∃ parts', List.Forall₂ (fun c p => p.place = place c ∧
        visit'.answer scope here (ask c) = .ok p.outcome) l parts' ∧
      Part.violations parts' = Part.violations parts := by
  have hpart : ∀ c ∈ l, ∀ p : Part κ,
      p.place = place c ∧ visit.answer scope here (ask c) = .ok p.outcome →
      ∃ p' : Part κ, (p'.place = place c ∧ visit'.answer scope here (ask c) = .ok p'.outcome) ∧
        p'.outcome.violations = p.outcome.violations := by
    rintro c hc p ⟨hplace, hanswer⟩
    obtain ⟨o', ho', hviolations⟩ := hrepeated (ask c) (hasks c hc) p.outcome hanswer
    exact ⟨⟨p.place, o'⟩, ⟨hplace, ho'⟩, hviolations⟩
  obtain ⟨parts', hparts', heq⟩ := exchange_forall₂ (f := fun p => p.outcome.violations) h hpart
  exact ⟨parts', hparts', violations_congr heq⟩

/-- What is made of a declared property is repeated without filling it, as long as no default
with parts is found for it. -/
lemma property_repeated (hvisit : visit.Steady) (hvisit' : visit'.Steady) {fields : Fields}
    {name : String} {s : Value}
    (hrepeated : ∀ w, fields.lookup name = some w →
      Repeats Outcome.violations (visit.answer scope here ⟨[.key name], [.key name], w, s⟩)
        (visit'.answer scope here ⟨[.key name], [.key name], w, s⟩))
    (hplain : ∀ default, (val.declaredDefault s).resultAt scope here = .ok (some default) →
      ¬ default.isContainer) :
    Repeats (fun p => p.outcome.violations)
      ((property val visit fields name s).resultAt scope here)
      ((property { val with fills := false } visit' fields name s).resultAt scope here) := by
  intro part hpart
  cases hlookup : fields.lookup name with
  | some w =>
    obtain ⟨hplace, hanswer⟩ := (property_present_iff hvisit hlookup).1 hpart
    obtain ⟨o', ho', hviolations⟩ := hrepeated w hlookup part.outcome hanswer
    exact ⟨⟨name, o'⟩, (property_present_iff hvisit' hlookup).2 ⟨rfl, ho'⟩, hviolations⟩
  | none =>
    have hnothing : Filled { val with fills := false } visit' scope here name s
        ⟨none, s, []⟩ := .nothing rfl
    refine ⟨⟨name, none, s, []⟩, (property_missing_iff hvisit' hlookup).2 ⟨rfl, hnothing⟩, ?_⟩
    obtain ⟨place, outcome⟩ := part
    -- A default that is not visited raises no violation.
    cases ((property_missing_iff hvisit hlookup).1 hpart).2 with
    | nothing => rfl
    | visited hdefault hcontainer => exact absurd hcontainer (hplain _ hdefault)
    | typed => rfl

lemma properties_repeated (hvisit : visit.Steady) (hvisit' : visit'.Steady)
    (hrepeated : visit.RepeatedBy visit' scope here (Keyword.Asks schema v value .properties))
    (hplain : ∀ declared name s default, value = .object declared → (name, s) ∈ declared →
      (val.declaredDefault s).resultAt scope here = .ok (some default) → ¬ default.isContainer) :
    Repeats Contribution.violations ((properties val visit v value).resultAt scope here)
      ((properties { val with fills := false } visit' v value).resultAt scope here) := by
  intro c h
  cases (properties_ok_iff hvisit).1 h with
  | @object fields declared parts hparts =>
    obtain ⟨parts', hparts', heq⟩ := exchange_forall₂ (f := fun p => p.outcome.violations) hparts
      fun field hfield part hpart => property_repeated hvisit hvisit'
        (fun w hw => hrepeated _ (.property hfield hw))
        (fun default => hplain declared field.1 field.2 default rfl hfield) part hpart
    exact ⟨_, (properties_ok_iff hvisit').2 (.object hparts'), violations_congr heq⟩
  | other hobject => exact ⟨_, (properties_ok_iff hvisit').2 (.other hobject), rfl⟩

lemma patternProperties_repeated (hvisit : visit.Steady) (hvisit' : visit'.Steady)
    (hrepeated : visit.RepeatedBy visit' scope here
      (Keyword.Asks schema v value .patternProperties)) :
    Repeats Contribution.violations ((patternProperties visit v value).resultAt scope here)
      ((patternProperties visit' v value).resultAt scope here) := by
  intro c h
  cases (patternProperties_ok_iff hvisit).1 h with
  | @object fields patterns groups hgroups =>
    obtain ⟨groups', hgroups', heq⟩ := exchange_forall₂ (f := Part.violations) hgroups
      fun entry hentry parts hparts => by
        obtain ⟨regex, hregex, hparts⟩ := (matchingFields_ok_iff hvisit).1 hparts
        obtain ⟨parts', hparts', hviolations⟩ := exchange_parts hparts hrepeated
          fun field hfield => by
            obtain ⟨hmem, hmatch⟩ := List.mem_filter.1 hfield
            exact .matching hentry hregex hmem hmatch
        exact ⟨parts', (matchingFields_ok_iff hvisit').2 ⟨regex, hregex, hparts'⟩, hviolations⟩
    refine ⟨_, (patternProperties_ok_iff hvisit').2 (.object hgroups'), ?_⟩
    dsimp only
    rw [violations_flatten, violations_flatten, heq]
  | other hobject => exact ⟨_, (patternProperties_ok_iff hvisit').2 (.other hobject), rfl⟩

lemma additionalProperties_repeated (hvisit : visit.Steady) (hvisit' : visit'.Steady)
    (hrepeated : visit.RepeatedBy visit' scope here
      (Keyword.Asks schema v value .additionalProperties)) :
    Repeats Contribution.violations
      ((additionalProperties visit schema v value).resultAt scope here)
      ((additionalProperties visit' schema v value).resultAt scope here) := by
  intro c h
  cases (additionalProperties_ok_iff hvisit).1 h with
  | visited hextras hparts =>
    obtain ⟨parts', hparts', hviolations⟩ := exchange_parts hparts hrepeated fun field hfield => by
      obtain ⟨hmem, hextra⟩ := (extraFields_ok hextras).1 hfield
      exact .extra hmem hextra
    exact ⟨_, (additionalProperties_ok_iff hvisit').2 (.visited hextras hparts'), hviolations⟩
  | allowed hextras =>
    exact ⟨_, (additionalProperties_ok_iff hvisit').2 (.allowed hextras), rfl⟩
  | absent hextras hnil =>
    exact ⟨_, (additionalProperties_ok_iff hvisit').2 (.absent hextras hnil), rfl⟩
  | forbidden hextras hne =>
    exact ⟨_, (additionalProperties_ok_iff hvisit').2 (.forbidden hextras hne), rfl⟩
  | other hobject hkind =>
    exact ⟨_, (additionalProperties_ok_iff hvisit').2 (.other hobject hkind), rfl⟩

lemma items_repeated (hvisit : visit.Steady) (hvisit' : visit'.Steady)
    (hrepeated : visit.RepeatedBy visit' scope here (Keyword.Asks schema v value .items)) :
    Repeats Contribution.violations ((items visit v value).resultAt scope here)
      ((items visit' v value).resultAt scope here) := by
  intro c h
  cases (items_ok_iff hvisit).1 h with
  | tuple hparts =>
    obtain ⟨parts', hparts', hviolations⟩ := exchange_parts hparts hrepeated fun item hitem => by
      obtain ⟨hw, hs⟩ := mem_tuple_iff.1 hitem
      exact .tuple hw hs
    exact ⟨_, (items_ok_iff hvisit').2 (.tuple hparts'), hviolations⟩
  | visited hparts =>
    obtain ⟨parts', hparts', hviolations⟩ := exchange_parts hparts hrepeated fun item hitem => by
      obtain ⟨hw, hs⟩ := mem_items_iff.1 hitem
      rw [hs]
      exact .item rfl hw
    exact ⟨_, (items_ok_iff hvisit').2 (.visited hparts'), hviolations⟩
  | other hlist hkind => exact ⟨_, (items_ok_iff hvisit').2 (.other hlist hkind), rfl⟩

lemma additionalItems_repeated (hvisit : visit.Steady) (hvisit' : visit'.Steady)
    (hrepeated : visit.RepeatedBy visit' scope here
      (Keyword.Asks schema v value .additionalItems)) :
    Repeats Contribution.violations ((additionalItems visit schema v value).resultAt scope here)
      ((additionalItems visit' schema v value).resultAt scope here) := by
  intro c h
  cases (additionalItems_ok_iff hvisit).1 h with
  | visited hschemas hparts =>
    obtain ⟨parts', hparts', hviolations⟩ := exchange_parts hparts hrepeated fun item hitem => by
      obtain ⟨hle, hw, hs⟩ := mem_later_iff.1 hitem
      rw [hs]
      exact .laterItem hschemas hle hw
    exact ⟨_, (additionalItems_ok_iff hvisit').2 (.visited hschemas hparts'), hviolations⟩
  | allowed hschemas => exact ⟨_, (additionalItems_ok_iff hvisit').2 (.allowed hschemas), rfl⟩
  | absent hschemas hnil =>
    exact ⟨_, (additionalItems_ok_iff hvisit').2 (.absent hschemas hnil), rfl⟩
  | forbidden hschemas hne =>
    exact ⟨_, (additionalItems_ok_iff hvisit').2 (.forbidden hschemas hne), rfl⟩
  | other hlists hkind =>
    exact ⟨_, (additionalItems_ok_iff hvisit').2 (.other hlists hkind), rfl⟩

/-! ## Combinations are repeated -/

lemma branches_repeated (hvisit : visit.Steady) (hvisit' : visit'.Steady) {k : Keyword}
    (hk : k = .allOf ∨ k = .anyOf ∨ k = .oneOf)
    (hrepeated : visit.RepeatedBy visit' scope here (Keyword.Asks schema v value k)) :
    Repeats (List.map verdict) ((branches visit k v value).resultAt scope here)
      ((branches visit' k v value).resultAt scope here) := by
  intro outcomes h
  obtain ⟨schemas, rfl, hall⟩ := (branches_ok_iff hvisit).1 h
  have hbranch : ∀ branch ∈ schemas.zipIdx, ∀ o : Nat × Outcome, (o.1 = branch.2 ∧
      visit.answer scope here ⟨[], [.index branch.2], v, branch.1⟩ = .ok o.2) →
      ∃ o' : Nat × Outcome, (o'.1 = branch.2 ∧
        visit'.answer scope here ⟨[], [.index branch.2], v, branch.1⟩ = .ok o'.2) ∧
        verdict o' = verdict o := by
    rintro branch hmem o ⟨hindex, hanswer⟩
    obtain ⟨o', ho', hviolations⟩ := hrepeated _
      (.branch hk (List.mem_zipIdx_iff_getElem?.1 hmem)) o.2 hanswer
    exact ⟨(o.1, o'), ⟨hindex, ho'⟩, Prod.ext rfl hviolations⟩
  obtain ⟨outcomes', hall', heq⟩ := exchange_forall₂ (f := verdict) hall hbranch
  exact ⟨outcomes', (branches_ok_iff hvisit').2 ⟨schemas, rfl, hall'⟩, heq⟩

section Verdicts

variable {outcomes outcomes' : List (Nat × Outcome)}

/-- Which branches pass can be seen from the verdicts. -/
lemma map_verdict_passing (outcomes : List (Nat × Outcome)) :
    (passing outcomes).map verdict = (outcomes.map verdict).filter fun o => o.2.isEmpty := by
  rw [List.filter_map]
  rfl

lemma passing_congr (h : outcomes'.map verdict = outcomes.map verdict) :
    (passing outcomes').map verdict = (passing outcomes).map verdict := by
  rw [map_verdict_passing, map_verdict_passing, h]

lemma allViolations_congr (h : outcomes'.map verdict = outcomes.map verdict) :
    allViolations outcomes' = allViolations outcomes := by
  have hall : ∀ outcomes, allViolations outcomes = (outcomes.map verdict).flatMap Prod.snd := by
    intro outcomes
    rw [List.flatMap_map]
    rfl
  rw [hall, hall, h]

lemma noBranch_congr (h : outcomes'.map verdict = outcomes.map verdict) (v : Value) :
    noBranch v outcomes' = noBranch v outcomes := by
  rw [noBranch, noBranch, allViolations_congr h]

lemma AnyOfEnd.repeated {c : Contribution} (h : AnyOfEnd v outcomes c)
    (heq : outcomes'.map verdict = outcomes.map verdict) :
    ∃ c', AnyOfEnd v outcomes' c' ∧ c'.violations = c.violations := by
  have hpassing := passing_congr heq
  cases h with
  | none hnil =>
    rw [hnil, List.map_nil, List.map_eq_nil_iff] at hpassing
    exact ⟨_, .none hpassing, by rw [noBranch_congr heq]⟩
  | some hne =>
    refine ⟨_, .some fun hnil => hne ?_, rfl⟩
    rwa [hnil, List.map_nil, eq_comm, List.map_eq_nil_iff] at hpassing

lemma OneOfEnd.repeated {c : Contribution} (h : OneOfEnd v value outcomes c)
    (heq : outcomes'.map verdict = outcomes.map verdict) :
    ∃ c', OneOfEnd v value outcomes' c' ∧ c'.violations = c.violations := by
  have hpassing := passing_congr heq
  cases h with
  | none hnil =>
    rw [hnil, List.map_nil, List.map_eq_nil_iff] at hpassing
    exact ⟨_, .none hpassing, by rw [noBranch_congr heq]⟩
  | @one i o hone =>
    rw [hone, List.map_singleton, List.map_eq_singleton_iff] at hpassing
    obtain ⟨⟨i', o'⟩, hone', hverdict⟩ := hpassing
    exact ⟨_, .one hone', congrArg Prod.snd hverdict⟩
  | several hne hnot =>
    refine ⟨_, .several (fun hnil => hne ?_) (fun o hone => ?_), ?_⟩
    · rwa [hnil, List.map_nil, eq_comm, List.map_eq_nil_iff] at hpassing
    · rw [hone, List.map_singleton, eq_comm, List.map_eq_singleton_iff] at hpassing
      obtain ⟨o', hone', -⟩ := hpassing
      exact hnot o' hone'
    · -- The message lists the branches by their indices.
      have hlist : ∀ outcomes : List (Nat × Outcome),
          (outcomes.filterMap fun o => (value.array?.getD [])[o.1]?) =
            (outcomes.map verdict).filterMap fun o => (value.array?.getD [])[o.1]? := by
        intro outcomes
        rw [List.filterMap_map]
        rfl
      rw [hlist, hlist, hpassing]

end Verdicts

lemma allOf_repeated (hvisit : visit.Steady) (hvisit' : visit'.Steady)
    (hrepeated : visit.RepeatedBy visit' scope here (Keyword.Asks schema v value .allOf)) :
    Repeats Contribution.violations ((allOf visit v value).resultAt scope here)
      ((allOf visit' v value).resultAt scope here) := by
  intro c h
  obtain ⟨outcomes, houtcomes, rfl⟩ := (allOf_ok_iff hvisit).1 h
  obtain ⟨outcomes', houtcomes', heq⟩ :=
    branches_repeated hvisit hvisit' (Or.inl rfl) hrepeated outcomes houtcomes
  -- Without branches there are no violations either.
  have hviolations : ∀ outcomes : List (Nat × Outcome), (if outcomes.isEmpty then .nothing
      else combine v (outcomes.map Prod.snd) (allViolations outcomes) : Contribution).violations =
        allViolations outcomes := by
    intro outcomes
    cases outcomes <;> rfl
  refine ⟨_, (allOf_ok_iff hvisit').2 ⟨outcomes', houtcomes', rfl⟩, ?_⟩
  rw [hviolations, hviolations, allViolations_congr heq]

lemma anyOf_repeated (hvisit : visit.Steady) (hvisit' : visit'.Steady)
    (hrepeated : visit.RepeatedBy visit' scope here (Keyword.Asks schema v value .anyOf)) :
    Repeats Contribution.violations ((anyOf visit v value).resultAt scope here)
      ((anyOf visit' v value).resultAt scope here) := by
  intro c h
  obtain ⟨outcomes, houtcomes, hc⟩ := (anyOf_ok_iff hvisit).1 h
  obtain ⟨outcomes', houtcomes', heq⟩ :=
    branches_repeated hvisit hvisit' (Or.inr (Or.inl rfl)) hrepeated outcomes houtcomes
  obtain ⟨c', hc', hviolations⟩ := hc.repeated heq
  exact ⟨c', (anyOf_ok_iff hvisit').2 ⟨outcomes', houtcomes', hc'⟩, hviolations⟩

lemma oneOf_repeated (hvisit : visit.Steady) (hvisit' : visit'.Steady)
    (hrepeated : visit.RepeatedBy visit' scope here (Keyword.Asks schema v value .oneOf)) :
    Repeats Contribution.violations ((oneOf visit v value).resultAt scope here)
      ((oneOf visit' v value).resultAt scope here) := by
  intro c h
  obtain ⟨outcomes, houtcomes, hc⟩ := (oneOf_ok_iff hvisit).1 h
  obtain ⟨outcomes', houtcomes', heq⟩ :=
    branches_repeated hvisit hvisit' (Or.inr (Or.inr rfl)) hrepeated outcomes houtcomes
  obtain ⟨c', hc', hviolations⟩ := hc.repeated heq
  exact ⟨c', (oneOf_ok_iff hvisit').2 ⟨outcomes', houtcomes', hc'⟩, hviolations⟩

lemma not_repeated (hvisit : visit.Steady) (hvisit' : visit'.Steady)
    (hrepeated : visit.RepeatedBy visit' scope here (Keyword.Asks schema v value .not)) :
    Repeats Contribution.violations ((not visit v value).resultAt scope here)
      ((not visit' v value).resultAt scope here) := by
  intro c h
  obtain ⟨o, ho, hc⟩ := (not_ok_iff hvisit).1 h
  have hanswer : visit.answer scope here ⟨[], [], v, value⟩ = .ok o :=
    Visit.answer_eq_ok_iff.2 ⟨o, ho, o.under_nil⟩
  obtain ⟨o', hanswer', hviolations⟩ := hrepeated _ .not o hanswer
  obtain ⟨o', ho', rfl⟩ := Visit.answer_eq_ok_iff.1 hanswer'
  rw [Outcome.under_nil] at hviolations
  cases hc with
  | taken hnil =>
    exact ⟨_, (not_ok_iff hvisit').2 ⟨o', ho', .taken (hviolations.trans hnil)⟩, rfl⟩
  | refused hne =>
    exact ⟨_, (not_ok_iff hvisit').2 ⟨o', ho', .refused fun hnil => hne (hviolations ▸ hnil)⟩, rfl⟩

lemma ref_repeated {follow follow' : Follow} (hfollow : follow.Steady) (hfollow' : follow'.Steady)
    (hrepeated : ∀ reference, value = .string reference →
      Repeats Outcome.violations ((follow v reference).resultAt scope here)
        ((follow' v reference).resultAt scope here)) :
    Repeats Contribution.violations ((ref follow v value).resultAt scope here)
      ((ref follow' v value).resultAt scope here) := by
  intro c h
  obtain ⟨reference, o, rfl, ho, rfl⟩ := (ref_ok_iff hfollow).1 h
  obtain ⟨o', ho', hviolations⟩ := hrepeated reference rfl o ho
  exact ⟨_, (ref_ok_iff hfollow').2 ⟨reference, o', rfl, ho', rfl⟩, hviolations⟩

end Applicator

/-! ## Schemas are repeated -/

section

variable {val : Validator} {follow follow' : Follow} {visit visit' : Visit} {scope : String}
  {here : List String} {v value : Value}

/-- A keyword that asks for nothing contributes the same, however visits are made and whether
properties are filled or not. -/
lemma Keyword.contribution_independent {schema : Fields} {k : Keyword} (hk : k ∉ asking)
    (href : k ≠ ref) :
    k.contribution { val with fills := false } follow' visit' schema v value =
      k.contribution val follow visit schema v value := by
  cases k with
  | ref => exact absurd rfl href
  | properties | patternProperties | additionalProperties | items | additionalItems | allOf
  | anyOf | oneOf | not => exact absurd (by decide) hk
  | _ => rfl

lemma Keyword.contribution_repeated (hsteadies : Steadies follow visit)
    (hsteadies' : Steadies follow' visit') {schema : Fields} {k : Keyword}
    (hrepeated : visit.RepeatedBy visit' scope here (Asks schema v value k))
    (hplain : k = .properties → ∀ declared name s default, value = .object declared →
      (name, s) ∈ declared → (val.declaredDefault s).resultAt scope here = .ok (some default) →
      ¬ default.isContainer)
    (hfollow : k = .ref → ∀ reference, value = .string reference →
      Repeats Outcome.violations ((follow v reference).resultAt scope here)
        ((follow' v reference).resultAt scope here)) :
    Repeats Contribution.violations
      ((k.contribution val follow visit schema v value).resultAt scope here)
      ((k.contribution { val with fills := false } follow' visit' schema v value).resultAt scope
        here) := by
  by_cases hasks : k ∈ asking
  · have hvisit := hsteadies.visit
    have hvisit' := hsteadies'.visit
    cases k with
    | properties => exact Applicator.properties_repeated hvisit hvisit' hrepeated (hplain rfl)
    | patternProperties =>
      exact Applicator.patternProperties_repeated hvisit hvisit' hrepeated
    | additionalProperties =>
      exact Applicator.additionalProperties_repeated hvisit hvisit' hrepeated
    | items => exact Applicator.items_repeated hvisit hvisit' hrepeated
    | additionalItems => exact Applicator.additionalItems_repeated hvisit hvisit' hrepeated
    | allOf => exact Applicator.allOf_repeated hvisit hvisit' hrepeated
    | anyOf => exact Applicator.anyOf_repeated hvisit hvisit' hrepeated
    | oneOf => exact Applicator.oneOf_repeated hvisit hvisit' hrepeated
    | not => exact Applicator.not_repeated hvisit hvisit' hrepeated
    | _ => exact absurd hasks (by decide)
  · by_cases href : k = .ref
    · subst href
      exact Applicator.ref_repeated hsteadies.follow hsteadies'.follow (hfollow rfl)
    · intro c hc
      rw [contribution_independent hasks href]
      exact ⟨c, hc, rfl⟩

namespace Validator

lemma visitKeyword_repeated (hsteadies : Steadies follow visit)
    (hsteadies' : Steadies follow' visit') {fields : Fields} {k : Keyword}
    (h : Repeats Contribution.violations
      ((k.contribution val follow visit fields v value).resultAt scope here)
      ((k.contribution { val with fills := false } follow' visit' fields v value).resultAt scope
        here)) :
    Repeats Outcome.violations
      ((val.visitKeyword follow visit v fields k value).resultAt scope here)
      ((visitKeyword { val with fills := false } follow' visit' v fields k value).resultAt scope
        here) := by
  intro o ho
  obtain ⟨c, hc, rfl⟩ := (visitKeyword_ok_iff hsteadies.follow hsteadies.visit).1 ho
  obtain ⟨c', hc', hviolations⟩ := h c hc
  refine ⟨_, (visitKeyword_ok_iff hsteadies'.follow hsteadies'.visit).2 ⟨c', hc', rfl⟩, ?_⟩
  dsimp only
  rw [hviolations]

/-- A schema is repeated if the keywords that count in it are: the reference if there is one,
and all keywords otherwise. -/
lemma visitFields_repeated (hsteadies : Steadies follow visit)
    (hsteadies' : Steadies follow' visit') {fields : Fields}
    (hkeyword : ∀ (k : Keyword) value, fields.lookup k.name = some value →
      k = .ref ∨ fields.lookup Keyword.ref.name = none →
      Repeats Contribution.violations
        ((k.contribution val follow visit fields v value).resultAt scope here)
        ((k.contribution { val with fills := false } follow' visit' fields v value).resultAt
          scope here)) :
    Repeats Outcome.violations ((val.visitFields follow visit v fields).resultAt scope here)
      ((visitFields { val with fills := false } follow' visit' v fields).resultAt scope here) := by
  intro o h
  cases visitFields_ok_iff.1 h with
  | ref href ho =>
    obtain ⟨o', ho', hviolations⟩ := visitKeyword_repeated hsteadies hsteadies'
      (hkeyword _ _ href (Or.inl rfl)) o ho
    exact ⟨o', visitFields_ok_iff.2 (.ref href ho'), hviolations⟩
  | null href hnull hnullable heq =>
    exact ⟨o, visitFields_ok_iff.2 (.null href hnull hnullable heq), rfl⟩
  | keywords href hnull ho =>
    obtain ⟨outcomes, hall, rfl⟩ := (visitKeywords_ok_iff hsteadies.follow hsteadies.visit).1 ho
    have houtcome : ∀ keyword ∈ keywordsOf fields, ∀ outcome : Keyword × Outcome,
        (outcome.1 = keyword.1 ∧ (val.visitKeyword follow visit v fields keyword.1
          keyword.2).resultAt scope here = .ok outcome.2) →
        ∃ outcome' : Keyword × Outcome, (outcome'.1 = keyword.1 ∧
          (visitKeyword { val with fills := false } follow' visit' v fields keyword.1
            keyword.2).resultAt scope here = .ok outcome'.2) ∧
          outcome'.2.violations = outcome.2.violations := by
      rintro ⟨k, value⟩ hmem ⟨k', o⟩ ⟨hk, ho⟩
      obtain ⟨o', ho', hviolations⟩ := visitKeyword_repeated hsteadies hsteadies'
        (hkeyword k value (Keyword.mem_keywordsOf.1 hmem) (Or.inr href)) o ho
      exact ⟨(k', o'), ⟨hk, ho'⟩, hviolations⟩
    obtain ⟨outcomes', hall', heq⟩ :=
      exchange_forall₂ (f := fun o => o.2.violations) hall houtcome
    refine ⟨_, visitFields_ok_iff.2 (.keywords href hnull
      ((visitKeywords_ok_iff hsteadies'.follow hsteadies'.visit).2 ⟨outcomes', hall', rfl⟩)), ?_⟩
    dsimp only
    rw [List.flatMap_def, List.flatMap_def, heq]

end Validator

end

/-! ## What a validation may come across -/

namespace Store

/-- The schemas that a validation may apply to some value, with the scopes it applies them in.
Beside a reference nothing counts. -/
inductive MayApply (store : Store) (schema : Value) : String → Value → Prop
  | root : MayApply store schema store.baseUri schema
  | asked {scope : String} {fields : Fields} {k : Keyword} {v value : Value} {a : Ask} :
      MayApply store schema scope (.object fields) →
      fields.lookup Keyword.ref.name = none → fields.lookup k.name = some value →
      Keyword.Asks fields v value k a →
      MayApply store schema (scopeInside scope fields) a.schema
  | jump {scope reference : String} {fields : Fields} {target : Value} :
      MayApply store schema scope (.object fields) →
      fields.lookup Keyword.ref.name = some (.string reference) →
      store.resolveUrl (Reference.join (scopeInside scope fields) reference) = .ok target →
      MayApply store schema (Reference.join (scopeInside scope fields)
        (Reference.join (scopeInside scope fields) reference)) target

/-- No default with parts is offered for a property that a validation may come across. -/
def FillsPlainly (store : Store) (schema : Value) : Prop :=
  ∀ ⦃scope fields declared name s default⦄, store.MayApply schema scope (.object fields) →
    fields.lookup Keyword.ref.name = none →
    fields.lookup Keyword.properties.name = some (.object declared) → (name, s) ∈ declared →
    store.Offers default (scopeInside scope fields) s → ¬ default.isContainer

end Store

namespace Validator

/-- Every visit that a validation may make is repeated without filling. -/
lemma visit_repeated (val : Validator) {schema : Value} (hplain : val.store.FillsPlainly schema)
    {n : Nat} {scope : String} {here : List String} {v s : Value}
    (hs : val.store.MayApply schema scope s) :
    Repeats Outcome.violations ((val.visit n v s).resultAt scope here)
      ((visit { val with fills := false } n v s).resultAt scope here) := by
  induction n generalizing scope here v s with
  | zero => exact fun o h => absurd h visit_zero_ne_ok
  | succ n ih =>
    have hsteadies := val.visit_steadies n
    have hsteadies' := visit_steadies { val with fills := false } n
    intro o h
    obtain ⟨fields, rfl, hfields⟩ := (visitNode_ok_iff hsteadies.follow hsteadies.visit).1 h
    have hrepeated : Repeats Outcome.violations
        ((val.visitFields (Applicator.follow val.store (val.visit n)) (val.visit n) v
          fields).resultAt (scopeInside scope fields) here)
        ((visitFields { val with fills := false }
          (Applicator.follow val.store (visit { val with fills := false } n))
          (visit { val with fills := false } n) v fields).resultAt (scopeInside scope fields)
          here) := by
      refine visitFields_repeated hsteadies hsteadies' fun k value hlookup hcounts =>
        Keyword.contribution_repeated hsteadies hsteadies' (fun a ha => ?_) ?_ ?_
      · -- What a keyword asks for may be applied, since there is no reference beside it.
        have href : fields.lookup Keyword.ref.name = none := by
          refine hcounts.resolve_left fun hk => ?_
          have hmem := Keyword.mem_asking_of_asks ha
          rw [hk] at hmem
          exact absurd hmem (by decide)
        exact Visit.answer_repeated (ih (.asked hs href hlookup ha))
      · rintro rfl declared name s default rfl hmem hdefault
        have href := hcounts.resolve_left (by simp)
        exact hplain hs href hlookup hmem (offers_of_findDefault
          (findDefault_of_declaredDefault hdefault))
      · rintro rfl reference rfl o ho
        obtain ⟨target, hfound, hopen, ho⟩ := (Applicator.follow_ok_iff hsteadies.visit).1 ho
        obtain ⟨o', ho', hviolations⟩ := ih (.jump hs hlookup hfound) o ho
        exact ⟨o', (Applicator.follow_ok_iff hsteadies'.visit).2 ⟨target, hfound, hopen, ho'⟩,
          hviolations⟩
    obtain ⟨o', ho', hviolations⟩ := hrepeated o hfields
    exact ⟨o', (visitNode_ok_iff hsteadies'.follow hsteadies'.visit).2 ⟨fields, rfl, ho'⟩,
      hviolations⟩

/-- **Filling decides nothing**: as long as no default with parts is offered for a property, a
validation without filling raises the violations that a validation with filling raises, if that
one comes to a good end. -/
theorem violationsOf_filling (store : Store) (formats : Formats) {v schema : Value}
    (hplain : store.FillsPlainly schema) {violations : List Violation}
    (h : (Validator.mk store formats true).violationsOf v schema = .ok violations) :
    (Validator.mk store formats false).violationsOf v schema = .ok violations := by
  obtain ⟨o, ho, rfl⟩ := violationsOf_eq_ok_iff.1 h
  -- The depth of the visit does not depend on filling.
  obtain ⟨o', ho', hviolations⟩ :=
    (Validator.mk store formats true).visit_repeated hplain .root o ho
  exact violationsOf_eq_ok_iff.2 ⟨o', ho', hviolations⟩

end Validator

namespace MissingNote

/-- A schema with a default of its own. -/
def note : Value := .object [("default", .string "none")]

/-- A document that defines it. -/
def document : Value := .object [("definitions", .object [("note", note)])]

/-- A reference to it. -/
def reference : Value := .object [("$ref", .string "#/definitions/note")]

/-- A schema that asks for a note and declares it by reference. -/
def schema : Value := .object [
  ("required", .array [.string "note"]),
  ("properties", .object [("note", reference)])]

/-- The reference leads to the definition. -/
lemma resolveUrl_reference :
    (Store.ofRoot "" document).resolveUrl (Reference.join "" "#/definitions/note") = .ok note :=
  rfl

/-- A validation comes across no more than these three schemas. -/
lemma mayApply {scope : String} {s : Value}
    (h : (Store.ofRoot "" document).MayApply schema scope s) :
    scope = "" ∧ s = schema ∨ scope = "" ∧ s = reference ∨ s = note := by
  induction h with
  | root => exact Or.inl ⟨rfl, rfl⟩
  | @asked scope fields k v value a _ href hlookup hasks ih =>
    rcases ih with ⟨rfl, heq⟩ | ⟨-, heq⟩ | heq
    · cases heq
      cases k with
      | properties =>
        obtain rfl := Option.some.inj hlookup
        cases hasks with
        | property hmem =>
          obtain ⟨-, rfl⟩ := Prod.mk.inj (List.mem_singleton.1 hmem)
          exact Or.inr (Or.inl ⟨rfl, rfl⟩)
      | required => exact absurd (Keyword.mem_asking_of_asks hasks) (by decide)
      | _ => cases hlookup
    · cases heq
      cases href
    · cases heq
      cases k <;> cases hlookup
  | @jump scope ref fields target _ href hfound ih =>
    rcases ih with ⟨-, heq⟩ | ⟨rfl, heq⟩ | heq
    · cases heq
      cases href
    · cases heq
      obtain rfl := Value.string.inj (Option.some.inj href)
      exact Or.inr (Or.inr (Except.ok.inj (hfound.symm.trans resolveUrl_reference)))
    · cases heq
      cases href

/-- The only default that is offered is a text. -/
lemma offers_eq {default : Value} (h : (Store.ofRoot "" document).Offers default "" reference) :
    default = .string "none" := by
  cases h with
  | own href => cases href
  | branch href => cases href
  | target href hfound hoffers =>
    cases href
    obtain rfl := Except.ok.inj (resolveUrl_reference.symm.trans hfound)
    cases hoffers with
    | own _ hdefault => exact (Option.some.inj hdefault).symm
    | target href => cases href
    | branch _ hdefault => cases hdefault

lemma fillsPlainly : (Store.ofRoot "" document).FillsPlainly schema := by
  intro scope fields declared name s default happly href hdeclared hmem hoffers
  rcases mayApply happly with ⟨rfl, heq⟩ | ⟨rfl, heq⟩ | heq
  · cases heq
    obtain rfl := Value.object.inj (Option.some.inj hdeclared)
    obtain ⟨-, rfl⟩ := Prod.mk.inj (List.mem_singleton.1 hmem)
    rw [offers_eq hoffers]
    decide
  · cases heq
    cases href
  · cases heq
    cases hdeclared

end MissingNote

/-- A note that is missing is reported as missing, whether or not it is filled in. -/
theorem missing_note_is_missed :
    (Store.ofRoot "" MissingNote.document).FillsPlainly MissingNote.schema ∧
    ∃ violation, (Validator.mk (.ofRoot "" MissingNote.document) .oas3 true).violationsOf
        (.object []) MissingNote.schema = .ok [violation] ∧
      (Validator.mk (.ofRoot "" MissingNote.document) .oas3 false).violationsOf
        (.object []) MissingNote.schema = .ok [violation] := by
  refine ⟨MissingNote.fillsPlainly, ?_⟩
  obtain ⟨violation, h⟩ : ∃ violation,
      (Validator.mk (.ofRoot "" MissingNote.document) .oas3 true).violationsOf (.object [])
        MissingNote.schema = .ok [violation] := ⟨_, rfl⟩
  exact ⟨violation, h, Validator.violationsOf_filling _ _ MissingNote.fillsPlainly h⟩

end ApiContract
