/-
# Satisfaction, pattern by pattern

The demand of `additionalProperties` is said of the patterns beside it taken together as
alternatives, which is how they are read.  Where patterns can be joined it can be said of the
patterns one by one, at every place that a validation has seen.
-/
import ApiContract.Proofs.Schema.CycleCheck
import ApiContract.Proofs.Schema.Permutation
import ApiContract.Proofs.Schema.Satisfaction
import Mathlib.Logic.Relation

namespace ApiContract

/-- The demand of a keyword, with the patterns one by one: `additionalProperties` concerns the
names that are not declared and that none of the patterns matches on its own. -/
def Keyword.HoldsApart (formats : Formats) (sat : Value → Value → Prop) (schema : Fields)
    (v value : Value) : Keyword → Prop
  | additionalProperties => ∀ fields, v = .object fields → ∀ name w, (name, w) ∈ fields →
      name ∉ Applicator.declaredNames schema →
      (∀ source ∈ Applicator.patternSources schema, ¬ Regex.matchesAlone source name) →
        value = .bool true ∨ value.object?.isSome ∧ sat w value
  | k => k.Holds formats sat schema v value

/-- Where patterns can be joined, the names that `additionalProperties` concerns are those that
none of the patterns matches on its own. -/
lemma isExtra_iff {schema : Fields} {name : String} (hjoins : schema.JoinsPatterns)
    (hread : ∀ source ∈ Applicator.patternSources schema, (Regex.ofText? source).isSome) :
    IsExtra schema name ↔ name ∉ Applicator.declaredNames schema ∧
      ∀ source ∈ Applicator.patternSources schema, ¬ Regex.matchesAlone source name := by
  rw [IsExtra]
  refine and_congr_right fun _ => ?_
  by_cases hsources : Applicator.patternSources schema = []
  · simp [hsources]
  · obtain ⟨regex, hregex, hmatch⟩ := hjoins hsources hread
    simp only [hsources, hregex, Option.some.injEq, false_or, forall_eq', hmatch, not_exists,
      not_and]

lemma Keyword.holds_iff_holdsApart {formats : Formats} {sat : Value → Value → Prop}
    {schema : Fields} {v value : Value} {k : Keyword} (hjoins : schema.JoinsPatterns)
    (hread : ∀ fields, v = .object fields →
      ∀ source ∈ Applicator.patternSources schema, (Regex.ofText? source).isSome) :
    k.Holds formats sat schema v value ↔ k.HoldsApart formats sat schema v value := by
  cases k with
  | additionalProperties =>
    refine forall_congr' fun fields => forall_congr' fun hv => ?_
    refine forall_congr' fun name => forall_congr' fun w => forall_congr' fun _ => ?_
    rw [isExtra_iff hjoins (hread fields hv), and_imp]
  | _ => exact Iff.rfl

namespace Store

variable {store : Store} {schema : Value} {site sub : Site}

/-- What is below a site with a known schema has a known schema too. -/
lemma Knows.below (h : store.Knows schema site.schema) (hsub : Below store sub site) :
    store.Knows schema sub.schema := by
  cases hsub with
  | target _ htarget => exact knows_of_resolveUrl htarget
  | asked hforce hask => exact h.contains (hforce.partOf.contains.trans hask.contains)

lemma Knows.joinsPatterns {fields : Fields} (h : store.Knows schema (.object fields))
    (hstore : store.JoinsPatterns) (hschema : schema.JoinsPatterns) : fields.JoinsPatterns := by
  rcases h with h | ⟨entry, hentry, h⟩
  · exact hschema fields h
  · exact hstore entry hentry fields h

end Store

namespace Validator

variable {val : Validator} {site sub : Site} {scope : String} {v : Value} {fields own : Fields}

/-- A value has been visited at a site, and the visit has come to a good end. -/
def HasVisited (val : Validator) (site : Site) : Prop :=
  ∃ n here o, (val.visit n site.value site.schema).resultAt site.scope here = .ok o

lemma HasVisited.settled (h : val.HasVisited ⟨scope, v, .object fields⟩) :
    ∃ n here o, val.Settled (Applicator.follow val.store (val.visit n)) (val.visit n)
      (scopeInside scope fields) here v fields o := by
  obtain ⟨n, here, o, ho⟩ := h
  cases n with
  | zero => exact absurd ho visit_zero_ne_ok
  | succ n =>
    have hsteady := val.visit_steady n
    obtain ⟨_, ⟨⟩, hsettled⟩ :=
      visitNode_settled (Applicator.follow_steady val.store hsteady) hsteady ho
    exact ⟨n, here, o, hsettled⟩

/-- What is below a site has been visited with it. -/
lemma HasVisited.below (hfills : val.fills = false) (h : val.HasVisited site)
    (hsub : Below val.store sub site) : val.HasVisited sub := by
  obtain ⟨scope, v, fields, rfl⟩ :
      ∃ scope v fields, site = ⟨scope, v, Value.object fields⟩ := by
    cases hsub with
    | target | asked => exact ⟨_, _, _, rfl⟩
  obtain ⟨n, here, o, hsettled⟩ := h.settled
  exact ⟨n, hsettled.visited_below (val.visit_steady n) hfills hsub⟩

/-- The patterns beside an object that has been visited can be read one by one. -/
lemma HasVisited.reads_patterns (h : val.HasVisited ⟨scope, .object own, .object fields⟩)
    (href : fields.lookup Keyword.ref.name = none) {source : String}
    (hsource : source ∈ Applicator.patternSources fields) : (Regex.ofText? source).isSome := by
  cases hlookup : fields.lookup Keyword.patternProperties.name with
  | none => simp [Applicator.patternSources, hlookup] at hsource
  | some value =>
    obtain ⟨n, here, o, hsettled⟩ := h.settled
    obtain ⟨c, hc⟩ := hsettled.answered .patternProperties value
      ⟨hlookup, Or.inr ⟨href, by simp [Value.isNull]⟩⟩
    cases (Applicator.patternProperties_ok_iff (val.visit_steady n)).1 hc with
    | object hgroups =>
      rw [Applicator.patternSources_eq hlookup] at hsource
      obtain ⟨entry, hentry, rfl⟩ := List.mem_map.1 hsource
      obtain ⟨parts, -, hparts⟩ := exists_right_of_forall₂ hgroups hentry
      obtain ⟨regex, hregex, -⟩ :=
        (Applicator.matchingFields_ok_iff (val.visit_steady n)).1 hparts
      simp [hregex]
    | other hobject => exact absurd rfl (hobject own)

/-- **Satisfaction, pattern by pattern.**  Where patterns can be joined, a value has no violations
if and only if it satisfies the schema; and wherever satisfaction leads from there, to schemas
that refer to nothing, it is that the keywords in force make their demands, of which that of
`additionalProperties` is about the names that no pattern matches on its own. -/
theorem violationsOf_eq_nil_iff_apart (hfills : val.fills = false)
    {schema : Value} (hjoins : val.store.JoinsPatterns ∧ schema.JoinsPatterns)
    {vs : List Violation} (h : val.violationsOf v schema = .ok vs) :
    (vs = [] ↔ val.Satisfies ⟨val.store.baseUri, v, schema⟩) ∧
    ∀ scope w fields,
      Relation.ReflTransGen (Below val.store) ⟨scope, w, .object fields⟩
        ⟨val.store.baseUri, v, schema⟩ →
      fields.lookup Keyword.ref.name = none →
      (val.Satisfies ⟨scope, w, .object fields⟩ ↔
        ∀ k value, Keyword.InForce fields w k value →
          k.HoldsApart val.formats (fun w s => val.Satisfies ⟨scopeInside scope fields, w, s⟩)
            fields w value) := by
  obtain ⟨hacc, hiff⟩ := val.violationsOf_eq_nil_iff_satisfies hfills v schema vs h
  refine ⟨hiff, fun scope w fields hbelow href => ?_⟩
  obtain ⟨o, ho, -⟩ := violationsOf_eq_ok_iff.1 h
  -- Along the way down sites have been visited, their schemas are known, and recursion ends.
  have hsite : ∀ site, Relation.ReflTransGen (Below val.store) site
      ⟨val.store.baseUri, v, schema⟩ → val.HasVisited site ∧
        val.store.Knows schema site.schema ∧ Acc (Below val.store) site := by
    intro site hsite
    induction hsite using Relation.ReflTransGen.head_induction_on with
    | refl => exact ⟨⟨_, _, o, ho⟩, Or.inl (Value.Contains.refl _), hacc⟩
    | head hsub _ ih =>
      obtain ⟨hvisited, hknows, hacc⟩ := ih
      exact ⟨hvisited.below hfills hsub, hknows.below hsub, hacc.inv hsub⟩
  obtain ⟨hvisited, hknows, hacc⟩ := hsite _ hbelow
  rw [satisfies_iff_demands val hacc, demands_keywords_iff href]
  refine forall_congr' fun k => forall_congr' fun value => forall_congr' fun _ => ?_
  refine Keyword.holds_iff_holdsApart (hknows.joinsPatterns hjoins.1 hjoins.2) ?_
  rintro own rfl source hsource
  exact hvisited.reads_patterns href hsource

end Validator

end ApiContract
