/-
# Alternatives

Alternatives are listed by `anyOf` and by `oneOf`.  As long as a value breaks none of them, it is
valid if it satisfies one of the former, or exactly one of the latter.

This is so for values without parts whether or not missing fields are filled, as such a value has no
fields.
-/
import ApiContract.Proofs.Schema.Location

namespace ApiContract

/-- Partners of elements with a property that have a property of their own are as many at least. -/
lemma countP_le_of_forall₂ {α β : Type} {p : α → Bool} {q : β → Bool} {l : List α} {l' : List β}
    (h : List.Forall₂ (fun a b => p a = true → q b = true) l l') : l.countP p ≤ l'.countP q := by
  induction h with
  | nil => exact Nat.le_refl _
  | @cons a b l l' hab _ ih =>
    by_cases ha : p a = true
    · rw [List.countP_cons_of_pos ha, List.countP_cons_of_pos (hab ha)]
      omega
    · rw [List.countP_cons_of_neg ha]
      exact Nat.le_trans ih (List.sublist_cons_self b l').countP_le

/-! ## Keywords that list alternatives -/

/-- A keyword lists alternatives and allows that so many of them are satisfied. -/
def Keyword.Allows (k : Keyword) (count : Nat) : Prop :=
  k = .anyOf ∧ 0 < count ∨ k = .oneOf ∧ count = 1

namespace Applicator

variable {visit : Visit} {scope : String} {here : List String} {v value : Value}
  {outcomes : List (Nat × Outcome)} {c : Contribution}

lemma AnyOfEnd.violations_eq_nil_iff (h : AnyOfEnd v outcomes c) :
    c.violations = [] ↔ 0 < (passing outcomes).length := by
  cases h with
  | none hnil => simp [noBranch, Contribution.ofViolations, hnil]
  | some hne => simpa [combine] using List.length_pos_iff.2 hne

lemma OneOfEnd.violations_eq_nil_iff (h : OneOfEnd v value outcomes c) :
    c.violations = [] ↔ (passing outcomes).length = 1 := by
  cases h with
  | none hnil => simp [noBranch, Contribution.ofViolations, hnil]
  | @one i o hone =>
    have hmem : (i, o) ∈ passing outcomes := by simp [hone]
    have hnil : o.violations = [] := by simpa [passing] using (List.mem_filter.1 hmem).2
    simp [Contribution.ofOutcome, hnil, hone]
  | several _ hseveral =>
    refine iff_of_false (by simp [Contribution.ofMessage, Contribution.ofViolations]) fun hone => ?_
    obtain ⟨o, ho⟩ := List.length_eq_one_iff.1 hone
    exact hseveral o ho

end Applicator

namespace Validator

open Walk

variable {val : Validator} {follow follow' : Follow} {visit visit' : Visit} {n : Nat}
  {scope : String} {here : List String} {v value : Value} {fields : Fields} {k : Keyword}
  {members : List Value}

/-! ## Values without parts -/

/-- The validator that does not fill missing fields. -/
def unfilled (val : Validator) : Validator := { val with fills := false }

lemma contribution_unfilled (hleaf : ¬ v.isContainer) (hfollow : ∀ r, follow v r = follow' v r)
    (hvisit : ∀ s, visit v s = visit' v s) :
    k.contribution val follow visit fields v value =
      k.contribution val.unfilled follow' visit' fields v value := by
  have hbranches : Applicator.branches visit k v value = Applicator.branches visit' k v value := by
    simp only [Applicator.branches, hvisit]
  cases k with
  | ref => cases value <;> simp only [Keyword.contribution, Applicator.ref, hfollow]
  | allOf => simp only [Keyword.contribution, Applicator.allOf, hbranches]
  | anyOf => simp only [Keyword.contribution, Applicator.anyOf, hbranches]
  | oneOf => simp only [Keyword.contribution, Applicator.oneOf, hbranches]
  | not => simp only [Keyword.contribution, Applicator.not, hvisit]
  | properties | patternProperties | additionalProperties | items | additionalItems =>
    -- These keywords look at the parts of values only.
    cases v with
    | object | array => exact absurd rfl hleaf
    | _ => rfl
  | _ => rfl

/-- Filling missing fields makes no difference to a value that has none. -/
lemma visit_unfilled (val : Validator) (hleaf : ¬ v.isContainer) (n : Nat) (schema : Value) :
    val.visit n v schema = val.unfilled.visit n v schema := by
  induction n generalizing schema with
  | zero => rfl
  | succ n ih =>
    have hfollow : ∀ r, Applicator.follow val.store (val.visit n) v r =
        Applicator.follow val.unfilled.store (val.unfilled.visit n) v r := by
      intro r
      simp only [Applicator.follow, ih]
      rfl
    have hkeyword : ∀ fields k value,
        val.visitKeyword (Applicator.follow val.store (val.visit n)) (val.visit n) v fields k
            value =
          val.unfilled.visitKeyword (Applicator.follow val.unfilled.store (val.unfilled.visit n))
            (val.unfilled.visit n) v fields k value := by
      intro fields k value
      rw [visitKeyword, visitKeyword, contribution_unfilled hleaf hfollow ih]
    simp only [visit, visitNode, visitFields, visitKeywords, hkeyword]

lemma violationsOf_unfilled (val : Validator) (hleaf : ¬ v.isContainer) (schema : Value) :
    val.violationsOf v schema = val.unfilled.violationsOf v schema := by
  have houtcome : val.outcome v schema = val.unfilled.outcome v schema :=
    val.visit_unfilled hleaf _ schema
  rw [violationsOf, violationsOf, violations, violations, houtcome]
  rfl

lemma validate_unfilled (val : Validator) (hleaf : ¬ v.isContainer) (schema : Value) :
    val.validate v schema = val.unfilled.validate v schema := by
  have houtcome : val.outcome v schema = val.unfilled.outcome v schema :=
    val.visit_unfilled hleaf _ schema
  rw [validate, validate, validated, validated, houtcome]
  rfl

/-! ## Schemas that list alternatives -/

/-- Whether a value satisfies a schema; it does not satisfy one that it breaks. -/
def accepts (val : Validator) (v schema : Value) : Bool :=
  (val.isValid v schema).toOption.getD false

lemma accepts_iff {schema : Value} :
    val.accepts v schema = true ↔ val.violationsOf v schema = .ok [] := by
  rw [accepts, isValid]
  rcases val.violationsOf v schema with e | _ | ⟨x, xs⟩ <;>
    simp [Except.map, Except.toOption]

/-- A schema says nothing but that a value be among some alternatives, and it opens no scope. -/
structure ListsMembers (k : Keyword) (members : List Value) (fields : Fields) : Prop where
  /-- There is no other keyword. -/
  keywords : keywordsOf fields = [(k, .array members)]
  /-- The alternatives are read in the scope of the schema. -/
  scope : (fields.lookup "id").bind Value.string? = none

lemma ListsMembers.size_lt (h : ListsMembers k members fields) {m : Value} (hm : m ∈ members) :
    m.size < (Value.object fields).size := by
  have hlookup : fields.lookup k.name = some (.array members) :=
    Keyword.mem_keywordsOf.1 (by simp [h.keywords])
  exact Nat.lt_trans (Value.PartOf.item hm).size_lt (Value.partOf_of_lookup hlookup).size_lt

/-- A value is valid if the keyword that lists the alternatives finds no violation. -/
lemma ListsMembers.validate_iff (h : ListsMembers k members fields) (hk : k ≠ .ref)
    (hnull : v.isNull = false) (hn : val.visitDepth v (.object fields) = n + 1) :
    (∃ out, val.validate v (.object fields) = .ok out) ↔
      ∃ c, (k.contribution val (Applicator.follow val.store (val.visit n)) (val.visit n) fields v
        (.array members)).resultAt val.store.baseUri [] = .ok c ∧ c.violations = [] := by
  have hsome : ¬ (v.isNull ∧ isNullable fields) := by simp [hnull]
  constructor
  · rintro ⟨out, hout⟩
    obtain ⟨o, ho, hnil, -⟩ := validate_eq_ok_iff.1 hout
    rw [outcome, hn] at ho
    obtain ⟨c, hc, rfl⟩ := (val.visit_only_ok_iff hk h.keywords h.scope hsome).1 ho
    exact ⟨c, hc, List.map_eq_nil_iff.1 hnil⟩
  · rintro ⟨c, hc, hnil⟩
    have hvisit := (val.visit_only_ok_iff hk h.keywords h.scope hsome).2 ⟨c, hc, rfl⟩
    rw [← hn] at hvisit
    exact ⟨_, validate_eq_ok_iff.2 ⟨_, hvisit, by simp [hnil], rfl⟩⟩

/-! ## How many alternatives are satisfied -/

open Applicator (BranchOutcomes passing)

variable {outcomes : List (Nat × Outcome)}

/-- The alternatives are visited less deep than alone, but far enough. -/
lemma ListsMembers.forall₂_outcomes (h : ListsMembers k members fields) (hfills : val.fills = false)
    (hn : val.visitDepth v (.object fields) = n + 1)
    (houtcomes : BranchOutcomes (val.visit n) val.store.baseUri [] v members.zipIdx outcomes) :
    List.Forall₂ (fun m o => ∀ vs, val.violationsOf v m = .ok vs →
      (o.2.violations = [] ↔ vs = [])) members outcomes := by
  have hmap : members = members.zipIdx.map Prod.fst := by simp
  rw [hmap, List.forall₂_map_left_iff]
  refine forall₂_imp_mem houtcomes fun branch hbranch o _ hanswer vs hvs => ?_
  obtain ⟨o', ho', heq⟩ := Visit.answer_eq_ok_iff.1 hanswer.2
  obtain ⟨o'', ho'', rfl⟩ := violationsOf_eq_ok_iff.1 hvs
  have hm : branch.1 ∈ members := List.fst_mem_of_mem_zipIdx hbranch
  have hsame := visit_below hfills ho'' (h.size_lt hm) hn
  obtain rfl := Except.ok.inj (ho'.symm.trans hsame)
  simp [← heq]

lemma ListsMembers.exists_outcomes (h : ListsMembers k members fields) (hfills : val.fills = false)
    (hn : val.visitDepth v (.object fields) = n + 1)
    (hjudged : ∀ m ∈ members, ∃ vs, val.violationsOf v m = .ok vs) :
    ∃ outcomes, BranchOutcomes (val.visit n) val.store.baseUri [] v members.zipIdx outcomes := by
  refine exists_forall₂ fun branch hbranch => ?_
  have hm : branch.1 ∈ members := List.fst_mem_of_mem_zipIdx hbranch
  obtain ⟨vs, hvs⟩ := hjudged branch.1 hm
  obtain ⟨o, ho, -⟩ := violationsOf_eq_ok_iff.1 hvs
  exact ⟨(branch.2, _), rfl,
    Visit.answer_eq_ok_iff.2 ⟨o, visit_below hfills ho (h.size_lt hm) hn, rfl⟩⟩

/-- An alternative that the value satisfies passes. -/
lemma ListsMembers.countP_le (h : ListsMembers k members fields) (hfills : val.fills = false)
    (hn : val.visitDepth v (.object fields) = n + 1)
    (houtcomes : BranchOutcomes (val.visit n) val.store.baseUri [] v members.zipIdx outcomes) :
    members.countP (val.accepts v) ≤ (passing outcomes).length := by
  rw [passing, ← List.countP_eq_length_filter]
  refine countP_le_of_forall₂ ((h.forall₂_outcomes hfills hn houtcomes).imp fun m o ho hm => ?_)
  simpa using (ho [] (accepts_iff.1 hm)).2 rfl

/-- If the value breaks none of the alternatives, no other one passes. -/
lemma ListsMembers.countP_eq (h : ListsMembers k members fields) (hfills : val.fills = false)
    (hn : val.visitDepth v (.object fields) = n + 1)
    (hjudged : ∀ m ∈ members, ∃ vs, val.violationsOf v m = .ok vs)
    (houtcomes : BranchOutcomes (val.visit n) val.store.baseUri [] v members.zipIdx outcomes) :
    members.countP (val.accepts v) = (passing outcomes).length := by
  refine Nat.le_antisymm (h.countP_le hfills hn houtcomes) ?_
  rw [passing, ← List.countP_eq_length_filter]
  refine countP_le_of_forall₂ (forall₂_imp_mem (h.forall₂_outcomes hfills hn houtcomes)
    fun m hm o _ ho hpasses => ?_).flip
  obtain ⟨vs, hvs⟩ := hjudged m hm
  rw [accepts_iff, hvs, (ho vs hvs).1 (by simpa using hpasses)]

/-- A value is valid if the keyword allows that so many alternatives pass. -/
lemma ListsMembers.validate_iff_passing (h : ListsMembers k members fields)
    (hk : k = .anyOf ∨ k = .oneOf) (hnull : v.isNull = false)
    (hn : val.visitDepth v (.object fields) = n + 1) :
    (∃ out, val.validate v (.object fields) = .ok out) ↔
      ∃ outcomes, BranchOutcomes (val.visit n) val.store.baseUri [] v members.zipIdx outcomes ∧
        k.Allows (passing outcomes).length := by
  have hsteady := val.visit_steady n
  rw [h.validate_iff (by rcases hk with rfl | rfl <;> simp) hnull hn]
  constructor
  · rintro ⟨c, hc, hnil⟩
    rcases hk with rfl | rfl
    · obtain ⟨outcomes, hbranches, hend⟩ := (Applicator.anyOf_ok_iff hsteady).1 hc
      obtain ⟨_, ⟨⟩, houtcomes⟩ := (Applicator.branches_ok_iff hsteady).1 hbranches
      exact ⟨outcomes, houtcomes, Or.inl ⟨rfl, hend.violations_eq_nil_iff.1 hnil⟩⟩
    · obtain ⟨outcomes, hbranches, hend⟩ := (Applicator.oneOf_ok_iff hsteady).1 hc
      obtain ⟨_, ⟨⟩, houtcomes⟩ := (Applicator.branches_ok_iff hsteady).1 hbranches
      exact ⟨outcomes, houtcomes, Or.inr ⟨rfl, hend.violations_eq_nil_iff.1 hnil⟩⟩
  · rintro ⟨outcomes, houtcomes, hallows⟩
    have hbranches := (Applicator.branches_ok_iff (k := k) hsteady).2 ⟨members, rfl, houtcomes⟩
    rcases hallows with ⟨rfl, hpos⟩ | ⟨rfl, hone⟩
    · have hend : Applicator.AnyOfEnd v outcomes _ := .some (List.length_pos_iff.1 hpos)
      exact ⟨_, (Applicator.anyOf_ok_iff hsteady).2 ⟨outcomes, hbranches, hend⟩,
        hend.violations_eq_nil_iff.2 hpos⟩
    · obtain ⟨⟨i, o⟩, hpassing⟩ := List.length_eq_one_iff.1 hone
      have hend : Applicator.OneOfEnd v (.array members) outcomes _ := .one hpassing
      exact ⟨_, (Applicator.oneOf_ok_iff hsteady).2 ⟨outcomes, hbranches, hend⟩,
        hend.violations_eq_nil_iff.2 hone⟩

/-! ## Valid values -/

lemma accepts_unfilled (val : Validator) (hleaf : ¬ v.isContainer) :
    val.accepts v = val.unfilled.accepts v := by
  funext schema
  rw [accepts, accepts, isValid, isValid, val.violationsOf_unfilled hleaf]

/-- A value without parts that breaks none of the alternatives is valid if it satisfies as many of
them as the keyword allows. -/
theorem ListsMembers.validate_iff_allows (h : ListsMembers k members fields)
    (hk : k = .anyOf ∨ k = .oneOf) (hleaf : ¬ v.isContainer) (hnull : v.isNull = false)
    (hjudged : ∀ m ∈ members, ∃ vs, val.violationsOf v m = .ok vs) :
    (∃ out, val.validate v (.object fields) = .ok out) ↔
      k.Allows (members.countP (val.accepts v)) := by
  simp only [val.validate_unfilled hleaf, val.violationsOf_unfilled hleaf,
    val.accepts_unfilled hleaf] at hjudged ⊢
  obtain ⟨n, hn⟩ := val.unfilled.exists_visitDepth v (.object fields)
  rw [h.validate_iff_passing hk hnull hn]
  constructor
  · rintro ⟨outcomes, houtcomes, hallows⟩
    rwa [h.countP_eq rfl hn hjudged houtcomes]
  · intro hallows
    obtain ⟨outcomes, houtcomes⟩ := h.exists_outcomes rfl hn hjudged
    exact ⟨outcomes, houtcomes, h.countP_eq rfl hn hjudged houtcomes ▸ hallows⟩

end Validator

end ApiContract
