/-
# What a conjunction of schemas makes of a value

Every branch of `allOf` starts from the value as it was given, and the values that the branches
make of it are merged, where the earlier one wins.  As long as missing fields are not filled,
these values have the same shape.  So the first branch wins everywhere: what it leaves as it is
stays as it is, whatever later branches read in it.
-/
import ApiContract.Proofs.Schema.Rewriting

namespace ApiContract

namespace Applicator

/-- Of values that refine one value, merging takes the first. -/
lemma combine_change_getD {reads : String → Value → Prop} (hreads : Value.ReadsLeaves reads)
    {v : Value} (hkeys : v.hasUniqueKeys) {first : Outcome} {outcomes : List Outcome}
    (h : ∀ o ∈ first :: outcomes, Value.Refines reads False v (o.change.getD v))
    (violations : List Violation) :
    (combine v (first :: outcomes) violations).change.getD v = first.change.getD v := by
  have hmerged : Value.mergeAll ((first :: outcomes).map fun o => o.change.getD v) =
      some (first.change.getD v) := by
    refine Value.mergeAll_eq_head hreads hkeys (h first (by simp)) fun w hw => ?_
    obtain ⟨o, ho, rfl⟩ := List.mem_map.1 hw
    exact h o (by simp [ho])
  rw [combine]
  dsimp only
  split
  · -- Nothing was changed, so the first has changed nothing either.
    rename_i hall
    have hnone := List.all_eq_true.1 hall first (by simp)
    rw [Option.isNone_iff_eq_none.1 hnone]
  · rw [hmerged]
    rfl

end Applicator

namespace Validator

variable {val : Validator} {v s schema : Value}

/-- What is valid is so at every depth that a larger schema is visited with. -/
lemma outcome_below (hfills : val.fills = false) {out : Validated}
    (h : val.validate v s = .ok out) (hsize : s.size < schema.size) {n : Nat}
    (hn : val.visitDepth v schema = n + 1) :
    ∃ o, (val.visit n v s).resultAt val.store.baseUri [] = .ok o ∧ o.violations = [] ∧
      o.change.getD v = out.value := by
  obtain ⟨o, ho, hnil, rfl⟩ := validate_eq_ok_iff.1 h
  exact ⟨o, visit_below hfills ho hsize hn, hnil, rfl⟩

/-- The outcome of a branch that takes the value. -/
structure Takes (val : Validator) (v schema : Value) (o : Outcome) : Prop where
  /-- There are no violations. -/
  valid : o.violations = []
  /-- The value is refined, and nothing is added to it. -/
  refines : v.Refines (val.formats.Reads (val.store.NamesFormat schema)) False (o.change.getD v)

/-- A branch takes the value also as part of a schema. -/
lemma exists_takes (hfills : val.fills = false) (hformats : val.formats.ReadTexts)
    (hkeys : v.hasUniqueKeys) {out : Validated} (h : val.validate v s = .ok out)
    (hsize : s.size < schema.size) (hcontains : schema.Contains s) {n : Nat}
    (hn : val.visitDepth v schema = n + 1) :
    ∃ o, (val.visit n v s).resultAt val.store.baseUri [] = .ok o ∧
      o.change.getD v = out.value ∧ val.Takes v schema o := by
  obtain ⟨o, ho, hnil, hvalue⟩ := outcome_below hfills h hsize hn
  refine ⟨o, ho, hvalue, hnil, ?_⟩
  have hgood := visit_obeys (refinement_law hformats _) (Or.inl hcontains) ho hkeys
  rw [hfills, Bool.false_eq_true] at hgood
  cases hchange : o.change with
  | none => exact Value.refines_refl v
  | some w => exact hgood w hchange

/-- The branches of a conjunction come to good ends together, the first one with the value that
it gives alone. -/
lemma exists_branches (hfills : val.fills = false) (hformats : val.formats.ReadTexts)
    (hkeys : v.hasUniqueKeys) {first : Value} {rest : List Value} {out : Validated}
    (hfirst : val.validate v first = .ok out)
    (hrest : ∀ s ∈ rest, ∃ out', val.validate v s = .ok out')
    (hsize : ∀ s ∈ first :: rest, s.size < schema.size)
    (hcontains : ∀ s ∈ first :: rest, schema.Contains s) {n : Nat}
    (hn : val.visitDepth v schema = n + 1) :
    ∃ o outcomes, o.2.change.getD v = out.value ∧
      Applicator.BranchOutcomes (val.visit n) val.store.baseUri [] v (first :: rest).zipIdx
        (o :: outcomes) ∧
      ∀ o' ∈ o :: outcomes, val.Takes v schema o'.2 := by
  -- A branch with its index, and an outcome of it.
  have hbranch : ∀ s ∈ first :: rest, ∀ out i, val.validate v s = .ok out →
      ∃ o : Nat × Outcome, (o.1 = i ∧
        (val.visit n).answer val.store.baseUri [] ⟨[], [.index i], v, s⟩ = .ok o.2) ∧
        o.2.change.getD v = out.value ∧ val.Takes v schema o.2 := by
    intro s hs out i hout
    obtain ⟨o, ho, hvalue, hnil, hrefines⟩ :=
      exists_takes hfills hformats hkeys hout (hsize s hs) (hcontains s hs) hn
    exact ⟨(i, o.under [] [.index i]), ⟨rfl, Visit.answer_eq_ok_iff.2 ⟨o, ho, rfl⟩⟩, hvalue,
      by simpa using hnil, hrefines⟩
  obtain ⟨o, ho, hvalue, htakes⟩ := hbranch first (by simp) out 0 hfirst
  have hothers : ∀ branch ∈ rest.zipIdx 1, ∃ o : Nat × Outcome, (o.1 = branch.2 ∧
      (val.visit n).answer val.store.baseUri [] ⟨[], [.index branch.2], v, branch.1⟩ =
        .ok o.2) ∧ val.Takes v schema o.2 := by
    rintro ⟨s, i⟩ hmem
    have hs : s ∈ rest := List.fst_mem_of_mem_zipIdx hmem
    obtain ⟨out', hout'⟩ := hrest s hs
    obtain ⟨o, ho, -, htakes⟩ := hbranch s (by simp [hs]) out' i hout'
    exact ⟨o, ho, htakes⟩
  obtain ⟨outcomes, hall⟩ := exists_forall₂ hothers
  refine ⟨o, outcomes, hvalue, .cons ho (hall.imp fun _ _ h => h.1), fun o' ho' => ?_⟩
  rcases List.mem_cons.1 ho' with rfl | ho'
  · exact htakes
  · obtain ⟨branch, -, -, htakes'⟩ := exists_left_of_forall₂ hall ho'
    exact htakes'

/-- **The first branch of a conjunction wins**: with the formats of a dialect and without filling
missing fields, a value that every branch takes is taken by all of them together, and it comes
back as the first branch alone gives it back.  So the typed leaves that the first branch has
read are kept, wherever they are. -/
theorem validate_allOf (store : Store) (dialect : Dialect) {v first : Value}
    {rest : List Value} (hkeys : v.hasUniqueKeys) {out : Validated}
    (hfirst : (Validator.mk store dialect.formats false).validate v first = .ok out)
    (hrest : ∀ s ∈ rest, ∃ out', (Validator.mk store dialect.formats false).validate v s =
      .ok out') :
    ∃ all, (Validator.mk store dialect.formats false).validate v
        (.object [(Keyword.allOf.name, .array (first :: rest))]) = .ok all ∧
      all.value = out.value ∧
      ∀ path s w, v.Leads path (.string s) → out.value.Leads path w → w.isTyped →
        all.value.Leads path w := by
  obtain ⟨schema, hschema⟩ : ∃ schema, schema =
      Value.object [(Keyword.allOf.name, .array (first :: rest))] := ⟨_, rfl⟩
  rw [← hschema]
  -- The branches are inside the schema, so they are smaller.
  have hlist : Value.PartOf (.array (first :: rest)) schema :=
    hschema ▸ .field List.mem_cons_self
  have hsize : ∀ s ∈ first :: rest, s.size < schema.size := fun s hs =>
    (Value.PartOf.item hs).size_lt.trans hlist.size_lt
  have hcontains : ∀ s ∈ first :: rest, schema.Contains s := fun s hs =>
    hlist.contains.trans (Value.PartOf.item hs).contains
  generalize hval : Validator.mk store dialect.formats false = val at hfirst hrest ⊢
  have hfills : val.fills = false := hval ▸ rfl
  have hformats : val.formats.ReadTexts := hval ▸ dialect.readTexts_formats
  obtain ⟨n, hn⟩ := val.exists_visitDepth v schema
  obtain ⟨o, outcomes, hvalue, hbranches, htakes⟩ :=
    exists_branches hfills hformats hkeys hfirst hrest hsize hcontains hn
  have hviolations : Applicator.allViolations (o :: outcomes) = [] :=
    List.flatMap_eq_nil_iff.2 fun o' ho' => (htakes o' ho').valid
  -- The merged value is that of the first branch.
  have hchange : (Applicator.combine v ((o :: outcomes).map Prod.snd)
      (Applicator.allViolations (o :: outcomes))).change.getD v = out.value := by
    have hrefines : ∀ o' ∈ o.2 :: outcomes.map Prod.snd,
        v.Refines (val.formats.Reads (val.store.NamesFormat schema)) False
          (o'.change.getD v) := by
      rw [← List.map_cons]
      intro o' ho'
      obtain ⟨o'', ho'', rfl⟩ := List.mem_map.1 ho'
      exact (htakes o'' ho'').refines
    rw [List.map_cons,
      Applicator.combine_change_getD (val.formats.readsLeaves _) hkeys hrefines, hvalue]
  have hall : (Applicator.allOf (val.visit n) v (.array (first :: rest))).resultAt
      val.store.baseUri [] = .ok (Applicator.combine v ((o :: outcomes).map Prod.snd)
        (Applicator.allViolations (o :: outcomes))) :=
    (Applicator.allOf_ok_iff (val.visit_steady n)).2 ⟨o :: outcomes,
      (Applicator.branches_ok_iff (val.visit_steady n)).2 ⟨_, rfl, hbranches⟩, rfl⟩
  have hvisit := (val.visit_single_ok_iff (k := .allOf) (by simp)).2 ⟨_, hall, rfl⟩
  rw [← hschema, ← hn] at hvisit
  have hvalid := validate_eq_ok_iff.2 ⟨_, hvisit, by simp [Applicator.combine, hviolations], rfl⟩
  refine ⟨_, hvalid, hchange, fun path s w _ hw _ => ?_⟩
  exact hchange ▸ hw

end Validator

namespace Conjunction

/-- A schema that reads the text of a day as a date. -/
def reading : Value := .object [("properties", .object [
  ("day", .object [("format", .string "date")])])]

/-- A schema that asks for a day. -/
def asking : Value := .object [("required", .array [.string "day"])]

/-- A value with a day. -/
def value : Value := .object [("day", .string "2017-07-26")]

end Conjunction

/-- The date that the first branch reads is kept. -/
theorem first_branch_reads :
    ∃ out date, Dialect.oas3.alone.validate Conjunction.value
        (.object [("allOf", .array [Conjunction.reading, Conjunction.asking])]) = .ok out ∧
      out.value = .object [("day", .date date)] := by
  have hfirst : ∃ out date, Dialect.oas3.alone.validate Conjunction.value Conjunction.reading =
      .ok out ∧ out.value = .object [("day", .date date)] := ⟨_, _, rfl, rfl⟩
  have hrest : ∀ s ∈ [Conjunction.asking], ∃ out',
      Dialect.oas3.alone.validate Conjunction.value s = .ok out' := by
    intro s hs
    obtain rfl := List.mem_singleton.1 hs
    exact ⟨_, rfl⟩
  obtain ⟨out, date, hout, hdate⟩ := hfirst
  obtain ⟨all, hall, hvalue, -⟩ := Validator.validate_allOf (.ofRoot "" .null) .oas3 rfl hout hrest
  exact ⟨all, date, hall, hvalue.trans hdate⟩

/-- A later branch is not kept: both branches take the text, and the second alone reads the date
in it, but both together give back the text. -/
theorem second_branch_is_lost :
    (Dialect.oas3.alone.validate (.string "2017-07-26")
      (.object [("type", .string "string")])).isOk ∧
    (Dialect.oas3.alone.validate (.string "2017-07-26")
      (.object [("format", .string "date")])).toOption.any (·.value.isTyped) ∧
    (Dialect.oas3.alone.validate (.string "2017-07-26") (.object [("allOf", .array [
      .object [("type", .string "string")],
      .object [("format", .string "date")]])])).toOption.bind (·.value.string?) =
        some "2017-07-26" := by
  decide +kernel

end ApiContract
