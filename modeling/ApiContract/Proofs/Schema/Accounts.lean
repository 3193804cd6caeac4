/-
# What keywords contribute

A keyword that comes to a good end has seen all the visits it has asked for come to a good
end, and its contribution accounts for them or weighs them.  From the keywords this goes up to
the schemas: the violations of a schema are those of its keywords that are in force.
-/
import ApiContract.Proofs.Schema.Visits

namespace ApiContract

namespace Applicator

open Walk

variable {val : Validator} {visit : Visit} {scope : String} {here : List String}

/-! ## Objects -/

lemma property_ok (hvisit : visit.Steady) (hfills : val.fills = false)
    {fields : Fields} {name : String} {schema : Value} {part : Part String}
    (h : (property val visit fields name schema).resultAt scope here = .ok part) :
    (fields.lookup name = none ∧ part.outcome.violations = []) ∨
      ∃ w, fields.lookup name = some w ∧
        visit.answer scope here ⟨[.key name], [.key name], w, schema⟩ = .ok part.outcome := by
  cases hlookup : fields.lookup name with
  | some w => exact Or.inr ⟨w, rfl, ((property_present_iff hvisit hlookup).1 h).2⟩
  | none =>
    obtain ⟨-, hfilled⟩ := (property_missing_iff hvisit hlookup).1 h
    exact Or.inl ⟨rfl, by rw [hfilled.eq_nothing hfills]⟩

lemma properties_accounts (hvisit : visit.Steady) (hfills : val.fills = false) (schema : Fields)
    {v value : Value} {c : Contribution}
    (h : (properties val visit v value).resultAt scope here = .ok c) :
    c.Accounts (Keyword.Asks schema v value .properties) (visit.answer scope here) [] := by
  cases (properties_ok_iff hvisit).1 h with
  | object hparts =>
    refine Part.Collects.accounts (.of_forall₂ hparts ?_ ?_) _ _
    · -- A declared name is asked for only if the value has such a field.
      intro a ha
      cases ha with
      | property hmem hlookup =>
        exact ⟨_, hmem, fun p hp => ((property_present_iff hvisit hlookup).1 hp).2⟩
    · intro field hmem p hp
      rcases property_ok hvisit hfills hp with ⟨-, hnil⟩ | ⟨w, hw, hanswer⟩
      · exact Or.inl hnil
      · exact Or.inr ⟨_, .property hmem hw, hanswer⟩
  | other hobject =>
    refine Contribution.accounts_nothing fun a ha => ?_
    cases ha with
    | property => exact hobject _ rfl

lemma patternProperties_accounts (hvisit : visit.Steady) (schema : Fields) {v value : Value}
    {c : Contribution}
    (h : (patternProperties visit v value).resultAt scope here = .ok c) :
    c.Accounts (Keyword.Asks schema v value .patternProperties) (visit.answer scope here) [] := by
  cases (patternProperties_ok_iff hvisit).1 h with
  | object hgroups =>
    refine Part.Collects.accounts ⟨?_, ?_⟩ _ _
    · intro a ha
      cases ha with
      | @matching _ _ name source regex s w hsource hregex hfield hmatch =>
        obtain ⟨matched, hmem, hmatched⟩ := exists_right_of_forall₂ hgroups hsource
        obtain ⟨regex', hregex', hall⟩ := (matchingFields_ok_iff hvisit).1 hmatched
        obtain rfl := Option.some.inj (hregex.symm.trans hregex')
        have hfiltered : (name, w) ∈ List.filter (fun field => regex.isMatch field.1) _ :=
          List.mem_filter.2 ⟨hfield, hmatch⟩
        obtain ⟨p, hp, -, hanswer⟩ := exists_right_of_forall₂ hall hfiltered
        exact ⟨p, List.mem_flatten.2 ⟨matched, hmem, hp⟩, hanswer⟩
    · intro p hp
      right
      obtain ⟨matched, hmem, hp⟩ := List.mem_flatten.1 hp
      obtain ⟨⟨source, s⟩, hsource, hmatched⟩ := exists_left_of_forall₂ hgroups hmem
      obtain ⟨regex, hregex, hall⟩ := (matchingFields_ok_iff hvisit).1 hmatched
      obtain ⟨⟨name, w⟩, hfiltered, -, hanswer⟩ := exists_left_of_forall₂ hall hp
      rw [List.mem_filter] at hfiltered
      exact ⟨_, .matching hsource hregex hfiltered.1 hfiltered.2, hanswer⟩
  | other hobject =>
    refine Contribution.accounts_nothing fun a ha => ?_
    cases ha with
    | matching => exact hobject _ rfl

lemma kind_of_additionalProperties_ok {schema : Fields} {v value : Value} {c : Contribution}
    (h : (additionalProperties visit schema v value).resultAt scope here = .ok c) :
    (∃ extra, value = .object extra) ∨ ∃ allowed, value = .bool allowed := by
  unfold additionalProperties at h
  split at h
  · simp at h
  · rename_i hkind
    cases value <;> simp_all [Value.object?, Value.bool?]

/-- The keyword `additionalProperties` raises a violation of its own if it forbids the
fields it concerns and there are some. -/
lemma additionalProperties_accounts (hvisit : visit.Steady) {schema : Fields} {v value : Value}
    {c : Contribution}
    (h : (additionalProperties visit schema v value).resultAt scope here = .ok c) :
    ∃ own, c.Accounts (Keyword.Asks schema v value .additionalProperties)
        (visit.answer scope here) own ∧
      (own = [] ↔ ∀ fields, v = .object fields → value = .bool false →
        ∀ name w, (name, w) ∈ fields → ¬ IsExtra schema name) := by
  cases (additionalProperties_ok_iff hvisit).1 h with
  | visited hextras hparts =>
    refine ⟨[], Part.Collects.accounts (.of_forall₂ hparts ?_ ?_) _ _, by simp⟩
    · intro a ha
      cases ha with
      | extra hfield hextra =>
        exact ⟨_, (extraFields_ok hextras).2 ⟨hfield, hextra⟩, fun p hp => hp.2⟩
    · rintro ⟨name, w⟩ hmem p hp
      obtain ⟨hfield, hextra⟩ := (extraFields_ok hextras).1 hmem
      exact Or.inr ⟨_, .extra hfield hextra, hp.2⟩
  | @allowed fields =>
    have hasks := @Keyword.not_asks_bool schema _ (Or.inl rfl) (.object fields) true
    exact ⟨[], Contribution.accounts_nothing hasks, by simp⟩
  | @absent fields extras hextras hnil =>
    have hasks := @Keyword.not_asks_bool schema _ (Or.inl rfl) (.object fields) false
    refine ⟨[], Contribution.accounts_nothing hasks, iff_of_true rfl ?_⟩
    rintro _ ⟨⟩ - name w hfield hextra
    simpa [hnil] using (extraFields_ok hextras).2 ⟨hfield, hextra⟩
  | @forbidden fields extras hextras hne =>
    have hasks := @Keyword.not_asks_bool schema _ (Or.inl rfl) (.object fields) false
    refine ⟨_, Contribution.accounts_ofMessage hasks _,
      iff_of_false (List.cons_ne_nil _ _) fun hnone => ?_⟩
    obtain ⟨⟨name, w⟩, hmem⟩ := List.exists_mem_of_ne_nil _ hne
    obtain ⟨hfield, hextra⟩ := (extraFields_ok hextras).1 hmem
    exact hnone _ rfl rfl name w hfield hextra
  | other hobject =>
    -- Other values have no fields to speak of.
    refine ⟨[], Contribution.accounts_nothing fun a ha => ?_, iff_of_true rfl fun fields hv =>
      absurd hv (hobject fields)⟩
    cases ha with
    | extra => exact hobject _ rfl
    | branch hk => simp at hk

/-! ## Arrays -/

lemma items_accounts (hvisit : visit.Steady) (schema : Fields)
    {v value : Value} {c : Contribution}
    (h : (items visit v value).resultAt scope here = .ok c) :
    c.Accounts (Keyword.Asks schema v value .items) (visit.answer scope here) [] := by
  cases (items_ok_iff hvisit).1 h with
  | tuple hparts =>
    refine Part.Collects.accounts (.of_forall₂ hparts ?_ ?_) _ _
    · intro a ha
      cases ha with
      | item hs => simp [Value.array?] at hs
      | @tuple _ _ s w i hw hs =>
        exact ⟨((w, s), i), mem_tuple_iff.2 ⟨hw, hs⟩, fun p hp => hp.2⟩
      | branch hk => simp at hk
    · rintro ⟨⟨w, s⟩, i⟩ hmem p hp
      obtain ⟨hw, hs⟩ := mem_tuple_iff.1 hmem
      exact Or.inr ⟨_, .tuple hw hs, hp.2⟩
  | @visited vs s parts hparts =>
    refine Part.Collects.accounts (.of_forall₂ hparts ?_ ?_) _ _
    · intro a ha
      cases ha with
      | @item _ _ w i _ hw =>
        exact ⟨((w, .object s), i), mem_items_iff.2 ⟨hw, rfl⟩, fun p hp => hp.2⟩
    · rintro ⟨⟨w, s'⟩, i⟩ hmem p hp
      obtain ⟨hw, rfl⟩ := mem_items_iff.1 hmem
      exact Or.inr ⟨_, .item rfl hw, hp.2⟩
  | other hlist =>
    refine Contribution.accounts_nothing fun a ha => ?_
    cases ha with
    | item => exact hlist _ rfl
    | tuple => exact hlist _ rfl
    | branch hk => simp at hk

lemma kind_of_additionalItems_ok {schema : Fields} {v value : Value} {c : Contribution}
    (h : (additionalItems visit schema v value).resultAt scope here = .ok c) :
    (∃ later, value = .object later) ∨ ∃ allowed, value = .bool allowed := by
  unfold additionalItems at h
  split at h
  · simp at h
  · rename_i hkind
    cases value <;> simp_all [Value.object?, Value.bool?]

/-- The keyword `additionalItems` raises a violation of its own if it forbids the items it
concerns and there are some. -/
lemma additionalItems_accounts (hvisit : visit.Steady) {schema : Fields} {v value : Value}
    {c : Contribution}
    (h : (additionalItems visit schema v value).resultAt scope here = .ok c) :
    ∃ own, c.Accounts (Keyword.Asks schema v value .additionalItems)
        (visit.answer scope here) own ∧
      (own = [] ↔ ∀ vs schemas, v = .array vs → value = .bool false →
        (schema.lookup Keyword.items.name).bind Value.array? = some schemas →
        vs.length ≤ schemas.length) := by
  cases (additionalItems_ok_iff hvisit).1 h with
  | @visited vs schemas later parts hschemas hparts =>
    refine ⟨[], Part.Collects.accounts (.of_forall₂ hparts ?_ ?_) _ _, by simp⟩
    · intro a ha
      cases ha with
      | @laterItem _ schemas' _ w i hschemas' hle hw =>
        obtain rfl := Option.some.inj (hschemas.symm.trans hschemas')
        exact ⟨((w, .object later), i), mem_later_iff.2 ⟨hle, hw, rfl⟩, fun p hp => hp.2⟩
    · rintro ⟨⟨w, s⟩, i⟩ hmem p hp
      obtain ⟨hle, hw, rfl⟩ := mem_later_iff.1 hmem
      exact Or.inr ⟨_, .laterItem hschemas hle hw, hp.2⟩
  | @allowed vs =>
    have hasks := @Keyword.not_asks_bool schema _ (Or.inr rfl) (.array vs) true
    exact ⟨[], Contribution.accounts_nothing hasks, by simp⟩
  | @absent vs schemas hschemas hnil =>
    have hasks := @Keyword.not_asks_bool schema _ (Or.inr rfl) (.array vs) false
    refine ⟨[], Contribution.accounts_nothing hasks, iff_of_true rfl ?_⟩
    rintro _ schemas' ⟨⟩ - hschemas'
    obtain rfl := Option.some.inj (hschemas.symm.trans hschemas')
    simpa using hnil
  | @forbidden vs schemas hschemas hne =>
    have hasks := @Keyword.not_asks_bool schema _ (Or.inr rfl) (.array vs) false
    refine ⟨_, Contribution.accounts_ofMessage hasks _,
      iff_of_false (List.cons_ne_nil _ _) fun hle => hne ?_⟩
    simpa using hle _ _ rfl rfl hschemas
  | other hlists =>
    -- Without a list of schemas beside it the keyword has no say.
    refine ⟨[], Contribution.accounts_nothing fun a ha => ?_, iff_of_true rfl
      fun vs schemas hv _ hschemas => absurd hschemas (hlists vs schemas hv)⟩
    cases ha with
    | laterItem hschemas => exact hlists _ _ rfl hschemas
    | branch hk => simp at hk

/-! ## Combinations -/

/-- The outcomes of the branches belong to the asks of their keyword. -/
structure Branched (asks : Ask → Prop) (answer : Ask → Except SchemaError Outcome)
    (outcomes : List (Nat × Outcome)) : Prop where
  /-- Every ask has its outcome. -/
  complete : ∀ a, asks a → ∃ o ∈ outcomes, answer a = .ok o.2
  /-- Every outcome belongs to an ask. -/
  sound : ∀ o ∈ outcomes, ∃ a, asks a ∧ answer a = .ok o.2

lemma branched_of_ok (hvisit : visit.Steady) {k : Keyword}
    (hk : k = .allOf ∨ k = .anyOf ∨ k = .oneOf) (schema : Fields) {v value : Value}
    {outcomes : List (Nat × Outcome)}
    (h : (branches visit k v value).resultAt scope here = .ok outcomes) :
    Branched (Keyword.Asks schema v value k) (visit.answer scope here) outcomes := by
  obtain ⟨schemas, rfl, hall⟩ := (branches_ok_iff hvisit).1 h
  refine ⟨fun a ha => ?_, fun o ho => ?_⟩
  · cases ha with
    | @branch _ _ s _ i _ hs =>
      obtain ⟨o, ho, -, hanswer⟩ := exists_right_of_forall₂ hall
        (a := (s, i)) (List.mem_zipIdx_iff_getElem?.2 hs)
      exact ⟨o, ho, hanswer⟩
    | _ => simp at hk
  · obtain ⟨⟨s, i⟩, hmem, -, hanswer⟩ := exists_left_of_forall₂ hall ho
    exact ⟨_, .branch hk (List.mem_zipIdx_iff_getElem?.1 hmem), hanswer⟩

lemma mem_allViolations {outcomes : List (Nat × Outcome)} {x : Violation} :
    x ∈ allViolations outcomes ↔ ∃ o ∈ outcomes, x ∈ o.2.violations := by
  simp [allViolations]

lemma allOf_accounts (hvisit : visit.Steady) (schema : Fields)
    {v value : Value} {c : Contribution}
    (h : (allOf visit v value).resultAt scope here = .ok c) :
    c.Accounts (Keyword.Asks schema v value .allOf) (visit.answer scope here) [] := by
  obtain ⟨outcomes, houtcomes, rfl⟩ := (allOf_ok_iff hvisit).1 h
  have hbranched := branched_of_ok hvisit (Or.inl rfl) schema houtcomes
  have hviolations : (if outcomes.isEmpty then Contribution.nothing
      else combine v (outcomes.map Prod.snd) (allViolations outcomes)).violations =
        allViolations outcomes := by
    split
    · rename_i hempty
      rw [List.isEmpty_iff.1 hempty]
      rfl
    · rfl
  refine ⟨fun a ha => ?_, by simp, fun x => ?_⟩
  · obtain ⟨o, -, hanswer⟩ := hbranched.complete a ha
    exact ⟨o.2, hanswer⟩
  · rw [hviolations, mem_allViolations]
    simp only [List.not_mem_nil, false_or]
    constructor
    · rintro ⟨o, ho, hx⟩
      obtain ⟨a, ha, hanswer⟩ := hbranched.sound o ho
      exact ⟨a, o.2, ha, hanswer, hx⟩
    · rintro ⟨a, o, ha, ho, hx⟩
      obtain ⟨o', ho', hanswer⟩ := hbranched.complete a ha
      obtain rfl : o = o'.2 := by simpa [ho] using hanswer
      exact ⟨o', ho', hx⟩

lemma mem_passing {outcomes : List (Nat × Outcome)} {o : Nat × Outcome} :
    o ∈ passing outcomes ↔ o ∈ outcomes ∧ o.2.violations = [] := by
  simp [passing]

namespace Branched

variable {asks : Ask → Prop} {answer : Ask → Except SchemaError Outcome}
  {outcomes : List (Nat × Outcome)}

lemma answered (h : Branched asks answer outcomes) (a : Ask) (ha : asks a) :
    ∃ o, answer a = .ok o := by
  obtain ⟨o, -, hanswer⟩ := h.complete a ha
  exact ⟨o.2, hanswer⟩

lemma noBranch_weighs (h : Branched asks answer outcomes) (v : Value) :
    (noBranch v outcomes).Weighs asks answer := by
  refine ⟨h.answered, fun x hx => ?_, fun x hx y hy => ?_⟩
  · obtain rfl := by simpa [noBranch, Contribution.ofViolations] using hx
    exact ⟨rfl, rfl, rfl⟩
  · obtain rfl := by simpa [noBranch, Contribution.ofViolations] using hx
    obtain ⟨o, ho, hyo⟩ := mem_allViolations.1 hy
    obtain ⟨a, ha, hanswer⟩ := h.sound o ho
    exact ⟨a, o.2, ha, hanswer, hyo⟩

end Branched

/-- The keyword `anyOf` is content if one of the branches is. -/
lemma anyOf_weighs (hvisit : visit.Steady) (schema : Fields)
    {v value : Value} {c : Contribution}
    (h : (anyOf visit v value).resultAt scope here = .ok c) :
    c.Weighs (Keyword.Asks schema v value .anyOf) (visit.answer scope here) ∧
      (c.violations = [] ↔ ∃ a o, Keyword.Asks schema v value .anyOf a ∧
        visit.answer scope here a = .ok o ∧ o.violations = []) := by
  obtain ⟨outcomes, houtcomes, hc⟩ := (anyOf_ok_iff hvisit).1 h
  have hbranched := branched_of_ok hvisit (Or.inr (Or.inl rfl)) schema houtcomes
  cases hc with
  | none hpassing =>
    refine ⟨hbranched.noBranch_weighs v, fun hnil => by
      simp [noBranch, Contribution.ofViolations] at hnil, ?_⟩
    -- A branch that takes the value would be among those that pass.
    rintro ⟨a, o, ha, ho, hnil⟩
    exfalso
    obtain ⟨o', ho', hanswer⟩ := hbranched.complete a ha
    obtain rfl : o = o'.2 := by simpa [ho] using hanswer
    have hmem : o' ∈ passing outcomes := mem_passing.2 ⟨ho', hnil⟩
    simp [hpassing] at hmem
  | some hpassing =>
    refine ⟨Contribution.weighs_of_plain hbranched.answered (by simp [combine]), fun _ => ?_,
      fun _ => rfl⟩
    obtain ⟨o, hmem⟩ := List.exists_mem_of_ne_nil (passing outcomes) hpassing
    obtain ⟨ho, hnil⟩ := mem_passing.1 hmem
    obtain ⟨a, ha, hanswer⟩ := hbranched.sound o ho
    exact ⟨a, o.2, ha, hanswer, hnil⟩

/-- The branch with an index passes. -/
def BranchPasses (answer : Ask → Except SchemaError Outcome) (v value : Value) (i : Nat) :
    Prop :=
  ∃ schemas s o, value = .array schemas ∧ schemas[i]? = some s ∧
    answer ⟨[], [.index i], v, s⟩ = .ok o ∧ o.violations = []

lemma branchPasses_iff_mem_passing (hvisit : visit.Steady) {k : Keyword}
    {v value : Value} {outcomes : List (Nat × Outcome)}
    (h : (branches visit k v value).resultAt scope here = .ok outcomes) (i : Nat) :
    BranchPasses (visit.answer scope here) v value i ↔ ∃ o ∈ passing outcomes, o.1 = i := by
  obtain ⟨schemas, rfl, hall⟩ := (branches_ok_iff hvisit).1 h
  constructor
  · rintro ⟨schemas', s, o, ⟨⟩, hs, ho, hnil⟩
    obtain ⟨o', hmem, hi, hanswer⟩ := exists_right_of_forall₂ hall
      (a := (s, i)) (List.mem_zipIdx_iff_getElem?.2 hs)
    obtain rfl : o = o'.2 := by simpa [ho] using hanswer
    exact ⟨o', mem_passing.2 ⟨hmem, hnil⟩, hi⟩
  · rintro ⟨o, hmem, rfl⟩
    obtain ⟨ho, hnil⟩ := mem_passing.1 hmem
    obtain ⟨⟨s, i⟩, hs, hi, hanswer⟩ := exists_left_of_forall₂ hall ho
    rw [hi]
    exact ⟨schemas, s, o.2, rfl, List.mem_zipIdx_iff_getElem?.1 hs, hanswer, hnil⟩

lemma passing_nodup (hvisit : visit.Steady) {k : Keyword}
    {v value : Value} {outcomes : List (Nat × Outcome)}
    (h : (branches visit k v value).resultAt scope here = .ok outcomes) :
    (passing outcomes).Pairwise fun o o' => o.1 ≠ o'.1 := by
  obtain ⟨schemas, rfl, hall⟩ := (branches_ok_iff hvisit).1 h
  have heq : schemas.zipIdx.map Prod.snd = outcomes.map Prod.fst := by
    rw [← List.forall₂_eq_eq_eq, List.forall₂_map_left_iff, List.forall₂_map_right_iff]
    exact hall.imp fun branch o hbranch => hbranch.1.symm
  have hnodup : (outcomes.map Prod.fst).Nodup := by
    rw [← heq, List.zipIdx_map_snd]
    exact List.nodup_range'
  exact (List.pairwise_map.1 hnodup).filter _

/-- The keyword `oneOf` is content if exactly one of the branches is. -/
lemma oneOf_weighs (hvisit : visit.Steady) (schema : Fields)
    {v value : Value} {c : Contribution}
    (h : (oneOf visit v value).resultAt scope here = .ok c) :
    c.Weighs (Keyword.Asks schema v value .oneOf) (visit.answer scope here) ∧
      (c.violations = [] ↔ ∃! i, BranchPasses (visit.answer scope here) v value i) := by
  obtain ⟨outcomes, houtcomes, hc⟩ := (oneOf_ok_iff hvisit).1 h
  have hbranched := branched_of_ok hvisit (Or.inr (Or.inr rfl)) schema houtcomes
  have hnodup := passing_nodup hvisit houtcomes
  simp only [branchPasses_iff_mem_passing hvisit houtcomes]
  cases hc with
  | none hpassing =>
    refine ⟨hbranched.noBranch_weighs v, fun hnil => by
      simp [noBranch, Contribution.ofViolations] at hnil, ?_⟩
    rintro ⟨i, ⟨o, ho, -⟩, -⟩
    simp [hpassing] at ho
  | @one i o hpassing =>
    have hnil : o.violations = [] :=
      (mem_passing.1 (show (i, o) ∈ passing outcomes by simp [hpassing])).2
    refine ⟨Contribution.weighs_of_plain hbranched.answered
      (by simp [Contribution.ofOutcome, hnil]), fun _ => ?_, fun _ => hnil⟩
    rw [hpassing]
    exact ⟨i, ⟨(i, o), by simp, rfl⟩, by simp⟩
  | several hnone hone =>
    refine ⟨Contribution.weighs_of_plain hbranched.answered Contribution.isOwn_of_mem_ofMessage,
      fun hnil => by simp [Contribution.ofMessage, Contribution.ofViolations] at hnil, ?_⟩
    rintro ⟨i, -, hunique⟩
    exfalso
    rcases hpassing : passing outcomes with _ | ⟨o, _ | ⟨o', rest⟩⟩
    · exact hnone hpassing
    · exact hone o hpassing
    · -- Two branches that take the value would have the same place.
      rw [hpassing] at hnodup hunique
      have ho : o.1 = i := hunique _ ⟨o, by simp, rfl⟩
      have ho' : o'.1 = i := hunique _ ⟨o', by simp, rfl⟩
      exact (List.pairwise_cons.1 hnodup).1 o' (by simp) (ho.trans ho'.symm)

/-- The keyword `not` is content if the visit has violations. -/
lemma not_weighs (hvisit : visit.Steady) (schema : Fields)
    {v value : Value} {c : Contribution}
    (h : (not visit v value).resultAt scope here = .ok c) :
    c.Weighs (Keyword.Asks schema v value .not) (visit.answer scope here) ∧
      (c.violations = [] ↔ ∃ o, visit.answer scope here ⟨[], [], v, value⟩ = .ok o ∧
        o.violations ≠ []) := by
  obtain ⟨o, ho, hc⟩ := (not_ok_iff hvisit).1 h
  have hanswer : visit.answer scope here ⟨[], [], v, value⟩ = .ok (o.under [] []) :=
    Visit.answer_eq_ok_iff.2 ⟨o, ho, rfl⟩
  have hanswered : ∀ a, Keyword.Asks schema v value .not a →
      ∃ o, visit.answer scope here a = .ok o := by
    intro a ha
    cases ha with
    | not => exact ⟨_, hanswer⟩
    | branch hk => simp at hk
  cases hc with
  | taken hnil =>
    refine ⟨Contribution.weighs_of_plain hanswered Contribution.isOwn_of_mem_ofMessage,
      fun hnil => by simp [Contribution.ofMessage, Contribution.ofViolations] at hnil, ?_⟩
    rintro ⟨o', ho', hne⟩
    obtain rfl : o.under [] [] = o' := by simpa [hanswer] using ho'
    simp [hnil] at hne
  | refused hne =>
    refine ⟨Contribution.weighs_of_plain hanswered (by simp [Contribution.nothing,
      Contribution.ofViolations]), fun _ => ⟨_, hanswer, ?_⟩, fun _ => rfl⟩
    simpa using hne

/-! ## Texts and constraints -/

lemma constraint_plain {messages : Constraint.Messages}
    (hmessages : Constraint.Inherent messages) {c : Contribution}
    (h : (constraint messages).resultAt scope here = .ok c) :
    ∀ x ∈ c.violations, x.IsOwn ∧ x.context = [] := by
  obtain ⟨ms, -, rfl⟩ := constraint_ok hmessages h
  intro x hx
  obtain ⟨m, -, rfl⟩ := List.mem_map.1 hx
  exact ⟨Violation.isOwn_ofMessage m, rfl⟩

lemma pattern_plain {v value : Value} {c : Contribution}
    (h : (pattern v value).resultAt scope here = .ok c) :
    ∀ x ∈ c.violations, x.IsOwn ∧ x.context = [] := by
  obtain ⟨source, -, ⟨s, regex, -, -, ⟨-, rfl⟩ | ⟨-, message, rfl⟩⟩ | ⟨-, rfl⟩⟩ := pattern_ok h
  · simp [Contribution.nothing, Contribution.ofViolations]
  · exact Contribution.isOwn_of_mem_ofMessage
  · simp [Contribution.nothing, Contribution.ofViolations]

lemma format_plain {v value : Value} {c : Contribution}
    (h : (format val v value).resultAt scope here = .ok c) :
    ∀ x ∈ c.violations, x.IsOwn ∧ x.context = [] := by
  obtain ⟨name, -, ⟨change, -, rfl⟩ | ⟨fault, message, -, rfl⟩⟩ := format_ok h
  · simp
  · intro x hx
    obtain rfl := by simpa [Contribution.ofViolations] using hx
    exact ⟨⟨rfl, rfl, rfl⟩, rfl⟩

end Applicator

/-! ## All keywords -/

namespace Keyword

open Walk

variable {val : Validator} {follow : Follow} {visit : Visit} {scope : String}
  {here : List String} {schema : Fields} {k : Keyword} {v value : Value} {c : Contribution}

/-- The keywords that weigh the visits they ask for; the others gather them. -/
def weighing : List Keyword := [anyOf, oneOf, not]

/-- The keywords that ask for visits. -/
def asking : List Keyword :=
  [properties, patternProperties, additionalProperties, items, additionalItems, allOf] ++ weighing

lemma mem_asking_of_asks {a : Ask} (h : Asks schema v value k a) : k ∈ asking := by
  cases h with
  | branch hk => rcases hk with rfl | rfl | rfl <;> decide
  | _ => decide

/-- What a keyword that asks for nothing contributes is its own. -/
lemma contribution_plain (hk : k ∉ asking) (href : k ≠ ref)
    (h : (k.contribution val follow visit schema v value).resultAt scope here = .ok c) :
    ∀ x ∈ c.violations, x.IsOwn ∧ x.context = [] := by
  cases k with
  | ref => exact absurd rfl href
  | type => exact Applicator.constraint_plain (.type v value) h
  | enum => exact Applicator.constraint_plain (.enum v value) h
  | minLength => exact Applicator.constraint_plain (.atLeast _ _ value _) h
  | maxLength => exact Applicator.constraint_plain (.atMost _ _ value _) h
  | pattern => exact Applicator.pattern_plain h
  | minimum => exact Applicator.constraint_plain (.minimum schema v value) h
  | maximum => exact Applicator.constraint_plain (.maximum schema v value) h
  | multipleOf => exact Applicator.constraint_plain (.multipleOf v value) h
  | required => exact Applicator.constraint_plain (.required v value) h
  | minProperties => exact Applicator.constraint_plain (.atLeast _ _ value _) h
  | maxProperties => exact Applicator.constraint_plain (.atMost _ _ value _) h
  | dependencies => simp [contribution] at h
  | minItems => exact Applicator.constraint_plain (.atLeast _ _ value _) h
  | maxItems => exact Applicator.constraint_plain (.atMost _ _ value _) h
  | uniqueItems => exact Applicator.constraint_plain (.uniqueItems v value) h
  | format => exact Applicator.format_plain h
  | properties | patternProperties | additionalProperties | items | additionalItems | allOf
  | anyOf | oneOf | not => exact absurd (by decide) hk

/-- A keyword that does not weigh gathers, as long as missing properties are not filled. -/
lemma contribution_accounts (hvisit : visit.Steady) (hfills : val.fills = false)
    (hk : k ∉ weighing) (href : k ≠ ref)
    (h : (k.contribution val follow visit schema v value).resultAt scope here = .ok c) :
    ∃ own, c.Accounts (Asks schema v value k) (visit.answer scope here) own := by
  by_cases hasks : k ∈ asking
  · cases k with
    | properties => exact ⟨_, Applicator.properties_accounts hvisit hfills schema h⟩
    | patternProperties => exact ⟨_, Applicator.patternProperties_accounts hvisit schema h⟩
    | additionalProperties =>
      obtain ⟨own, hc, -⟩ := Applicator.additionalProperties_accounts hvisit h
      exact ⟨own, hc⟩
    | items => exact ⟨_, Applicator.items_accounts hvisit schema h⟩
    | additionalItems =>
      obtain ⟨own, hc, -⟩ := Applicator.additionalItems_accounts hvisit h
      exact ⟨own, hc⟩
    | allOf => exact ⟨_, Applicator.allOf_accounts hvisit schema h⟩
    | anyOf | oneOf | not => exact absurd (by decide) hk
    | _ => exact absurd hasks (by decide)
  · exact ⟨_, Contribution.accounts_of_no_asks (fun a ha => hasks (mem_asking_of_asks ha))
      (contribution_plain hasks href h)⟩

lemma contribution_weighs (hvisit : visit.Steady) (hk : k ∈ weighing)
    (h : (k.contribution val follow visit schema v value).resultAt scope here = .ok c) :
    c.Weighs (Asks schema v value k) (visit.answer scope here) := by
  cases k with
  | anyOf => exact (Applicator.anyOf_weighs hvisit schema h).1
  | oneOf => exact (Applicator.oneOf_weighs hvisit schema h).1
  | not => exact (Applicator.not_weighs hvisit schema h).1
  | _ => exact absurd hk (by decide)

/-- A keyword that comes to a good end has seen everything it has asked for do so. -/
lemma contribution_answered (hvisit : visit.Steady) (hfills : val.fills = false)
    (h : (k.contribution val follow visit schema v value).resultAt scope here = .ok c)
    {a : Ask} (ha : Asks schema v value k a) : ∃ o, visit.answer scope here a = .ok o := by
  by_cases hk : k ∈ weighing
  · exact (contribution_weighs hvisit hk h).answered a ha
  · have href : k ≠ ref := by
      rintro rfl
      exact absurd (mem_asking_of_asks ha) (by decide)
    obtain ⟨own, hc⟩ := contribution_accounts hvisit hfills hk href h
    exact hc.answered a ha

end Keyword

/-! ## Schemas -/

/-- A keyword with its value is in force for a value: a reference puts the other keywords out
of force, and so does a null that is allowed. -/
def Keyword.InForce (fields : Fields) (v : Value) (k : Keyword) (value : Value) : Prop :=
  fields.lookup k.name = some value ∧
    (k = .ref ∨
      fields.lookup Keyword.ref.name = none ∧ ¬ (v.isNull ∧ Validator.isNullable fields))

namespace Validator

open Walk

variable {val : Validator} {follow : Follow} {visit : Visit} {scope : String}
  {here : List String}

/-- What a schema makes of a value when it comes to a good end: all keywords in force have
come to a good end, and the violations are theirs. -/
structure Settled (val : Validator) (follow : Follow) (visit : Visit) (scope : String)
    (here : List String) (v : Value) (fields : Fields) (o : Outcome) : Prop where
  /-- Every keyword in force has come to a good end. -/
  answered : ∀ k value, Keyword.InForce fields v k value →
    ∃ c, (k.contribution val follow visit fields v value).resultAt scope here = .ok c
  /-- The violations are those of the keywords. -/
  mem_iff : ∀ x, x ∈ o.violations ↔
    ∃ k value c, Keyword.InForce fields v k value ∧
      (k.contribution val follow visit fields v value).resultAt scope here = .ok c ∧
      ∃ y ∈ c.violations, y.tagged k = x

lemma settled_of_ref (hfollow : follow.Steady) (hvisit : visit.Steady) {v : Value} {fields : Fields}
    {value : Value} {o : Outcome} (href : fields.lookup Keyword.ref.name = some value)
    (h : (val.visitKeyword follow visit v fields .ref value).resultAt scope here = .ok o) :
    val.Settled follow visit scope here v fields o := by
  obtain ⟨c, hc, rfl⟩ := (visitKeyword_ok_iff hfollow hvisit).1 h
  -- No other keyword is in force beside a reference.
  have honly : ∀ k value', Keyword.InForce fields v k value' → k = .ref ∧ value' = value := by
    rintro k value' ⟨hlookup, rfl | ⟨hnone, -⟩⟩
    · exact ⟨rfl, Option.some.inj (hlookup.symm.trans href)⟩
    · simp [href] at hnone
  refine ⟨fun k value' hk => ?_, fun x => ?_⟩
  · obtain ⟨rfl, rfl⟩ := honly k value' hk
    exact ⟨c, hc⟩
  · rw [List.mem_map]
    constructor
    · exact fun hx => ⟨.ref, value, c, ⟨href, Or.inl rfl⟩, hc, hx⟩
    · rintro ⟨k, value', c', hk, hc', hx⟩
      obtain ⟨rfl, rfl⟩ := honly k value' hk
      obtain rfl : c = c' := by simpa [hc] using hc'
      exact hx

/-- A null that is allowed puts all keywords out of force. -/
lemma settled_of_null {v : Value} {fields : Fields} {applied : Value}
    (href : fields.lookup Keyword.ref.name = none) (hnull : v.isNull ∧ isNullable fields) :
    val.Settled follow visit scope here v fields ⟨none, applied, []⟩ := by
  have hnone : ∀ k value, ¬ Keyword.InForce fields v k value := by
    rintro k value ⟨hlookup, rfl | ⟨-, hnot⟩⟩
    · simp [href] at hlookup
    · exact hnot hnull
  refine ⟨fun k value hk => absurd hk (hnone k value), fun x => ?_⟩
  constructor
  · intro hx
    simp at hx
  · rintro ⟨k, value, c, hk, -⟩
    exact absurd hk (hnone k value)

lemma settled_of_keywords (hfollow : follow.Steady) (hvisit : visit.Steady) {v : Value}
    {fields : Fields} {o : Outcome}
    (href : fields.lookup Keyword.ref.name = none) (hnull : ¬ (v.isNull ∧ isNullable fields))
    (h : (val.visitKeywords follow visit v fields).resultAt scope here = .ok o) :
    val.Settled follow visit scope here v fields o := by
  obtain ⟨outcomes, hall, rfl⟩ := (visitKeywords_ok_iff hfollow hvisit).1 h
  refine ⟨fun k value hk => ?_, fun x => ?_⟩
  · obtain ⟨outcome, -, -, ho⟩ := exists_right_of_forall₂ hall
      (a := (k, value)) (Keyword.mem_keywordsOf.2 hk.1)
    obtain ⟨c, hc, -⟩ := (visitKeyword_ok_iff hfollow hvisit).1 ho
    exact ⟨c, hc⟩
  · rw [List.mem_flatMap]
    constructor
    · rintro ⟨⟨k', o⟩, hmem, hx⟩
      obtain ⟨⟨k, value⟩, hkeyword, -, ho⟩ := exists_left_of_forall₂ hall hmem
      dsimp only at hx ho
      obtain ⟨c, hc, rfl⟩ := (visitKeyword_ok_iff hfollow hvisit).1 ho
      rw [List.mem_map] at hx
      exact ⟨k, value, c, ⟨Keyword.mem_keywordsOf.1 hkeyword, Or.inr ⟨href, hnull⟩⟩, hc, hx⟩
    · rintro ⟨k, value, c, hk, hc, hx⟩
      obtain ⟨⟨k', o⟩, hmem, -, ho⟩ := exists_right_of_forall₂ hall
        (a := (k, value)) (Keyword.mem_keywordsOf.2 hk.1)
      dsimp only at ho
      obtain ⟨c', hc', rfl⟩ := (visitKeyword_ok_iff hfollow hvisit).1 ho
      obtain rfl : c = c' := by simpa [hc] using hc'
      exact ⟨_, hmem, List.mem_map.2 hx⟩

lemma visitFields_settled (hfollow : follow.Steady) (hvisit : visit.Steady) {v : Value}
    {fields : Fields} {o : Outcome}
    (h : (val.visitFields follow visit v fields).resultAt scope here = .ok o) :
    val.Settled follow visit scope here v fields o := by
  cases visitFields_ok_iff.1 h with
  | ref href h => exact settled_of_ref hfollow hvisit href h
  | null href hnull hnullable heq =>
    subst heq
    exact settled_of_null href ⟨hnull, hnullable⟩
  | keywords href hnull h => exact settled_of_keywords hfollow hvisit href hnull h

/-- A schema that comes to a good end is an object, and its keywords in force have come to a
good end in the scope inside it. -/
lemma visitNode_settled (hfollow : follow.Steady) (hvisit : visit.Steady) {v schema : Value}
    {o : Outcome}
    (h : (val.visitNode follow visit v schema).resultAt scope here = .ok o) :
    ∃ fields, schema = .object fields ∧
      val.Settled follow visit (scopeInside scope fields) here v fields o := by
  obtain ⟨fields, hschema, hfields⟩ := (visitNode_ok_iff hfollow hvisit).1 h
  exact ⟨fields, hschema, visitFields_settled hfollow hvisit hfields⟩

end Validator

end ApiContract
