/-
# Values that a schema takes as they are

A schema takes a value as it is if none of its keywords changes it or finds fault with it.  Schemas
for texts take texts as they are, and schemas for lists of texts take lists of texts.
-/
import ApiContract.Proofs.Schema.Plan
import ApiContract.Proofs.Schema.Visits

namespace ApiContract

/-- Nothing is changed and nothing is wrong. -/
def Outcome.IsSilent (o : Outcome) : Prop :=
  o.change = none ∧ o.violations = []

/-- Nothing is changed and nothing is wrong. -/
def Contribution.IsSilent (c : Contribution) : Prop :=
  c.change = none ∧ c.violations = []

namespace Validator

open Walk

variable {val : Validator} {n : Nat} {scope : String} {here : List String} {v : Value}
  {fields : Fields}

/-! ## Silent keywords -/

/-- A schema whose keywords are silent is silent. -/
theorem visit_silent (href : fields.lookup Keyword.ref.name = none) (hnull : v.isNull = false)
    (hkeywords : ∀ keyword ∈ keywordsOf fields, ∃ c,
      (keyword.1.contribution val (Applicator.follow val.store (val.visit n)) (val.visit n) fields v
        keyword.2).resultAt (scopeInside scope fields) here = .ok c ∧ c.IsSilent) :
    ∃ o, (val.visit (n + 1) v (.object fields)).resultAt scope here = .ok o ∧ o.IsSilent := by
  have hsteadies := val.visit_steadies n
  have houtcomes : ∀ keyword ∈ keywordsOf fields, ∃ outcome : Keyword × Outcome,
      (outcome.1 = keyword.1 ∧ (val.visitKeyword (Applicator.follow val.store (val.visit n))
        (val.visit n) v fields keyword.1 keyword.2).resultAt (scopeInside scope fields) here =
          .ok outcome.2) ∧ outcome.2.IsSilent := by
    intro keyword hkeyword
    obtain ⟨c, hc, hchange, hviolations⟩ := hkeywords keyword hkeyword
    refine ⟨(keyword.1, _), ⟨rfl, (visitKeyword_ok_iff hsteadies.follow hsteadies.visit).2
      ⟨c, hc, rfl⟩⟩, hchange, ?_⟩
    simp [hviolations]
  obtain ⟨outcomes, hall⟩ := exists_forall₂ houtcomes
  have hsilent : ∀ outcome ∈ outcomes, outcome.2.IsSilent := by
    intro outcome houtcome
    obtain ⟨-, -, -, h⟩ := exists_left_of_forall₂ hall houtcome
    exact h
  refine ⟨_, (visitNode_ok_iff hsteadies.follow hsteadies.visit).2 ⟨fields, rfl,
    visitFields_ok_iff.2 (.keywords href (by simp [hnull])
      ((visitKeywords_ok_iff hsteadies.follow hsteadies.visit).2
        ⟨outcomes, hall.imp fun _ _ => And.left, rfl⟩))⟩, ?_, ?_⟩
  · refine foldl_layer_of_none v none fun change hchange => ?_
    obtain ⟨outcome, houtcome, rfl⟩ := List.mem_map.1 hchange
    exact (hsilent outcome houtcome).1
  · exact List.flatMap_eq_nil_iff.2 fun outcome houtcome => (hsilent outcome houtcome).2

end Validator

/-! ## Texts and lists of texts -/

/-- A schema for texts: its type is its only keyword. -/
def IsTextSchema (schema : Value) : Prop :=
  ∃ fields, schema = .object fields ∧ Validator.keywordsOf fields = [(.type, .string "string")]

/-- A schema for lists of texts: its only keywords are its type and a schema for texts that its
items have. -/
def IsTextListSchema (schema : Value) : Prop :=
  ∃ fields item, schema = .object fields ∧ IsTextSchema item ∧
    Validator.keywordsOf fields = [(.type, .string "array"), (.items, item)]

namespace Validator

open Walk

variable {val : Validator} {n : Nat} {scope : String} {here : List String} {v schema : Value}

/-- The keyword `type` is silent about a value of its type. -/
lemma type_silent {type : String} (h : Constraint.hasType v type = .ok true) :
    ∃ c, (Applicator.constraint (Constraint.type v (.string type))).resultAt scope here = .ok c ∧
      c.IsSilent := by
  refine ⟨.ofViolations [], ?_, rfl, rfl⟩
  have hmessages : Constraint.type v (.string type) = .ok [] := by
    simp [Constraint.type, Constraint.typeNames, Constraint.hasSomeType, h, bind, Except.bind,
      Constraint.expect, pure, Except.pure]
  rw [Applicator.constraint, hmessages]
  rfl

/-- A schema whose only keyword is its type is silent about the values of the type. -/
lemma visit_typed {fields : Fields} {type : String}
    (hkeywords : keywordsOf fields = [(.type, .string type)]) (hnull : v.isNull = false)
    (htype : Constraint.hasType v type = .ok true) :
    ∃ o, (val.visit (n + 1) v (.object fields)).resultAt scope here = .ok o ∧ o.IsSilent := by
  refine visit_silent (lookup_eq_none_of_not_mem (by simp [hkeywords])) (by simp [hnull]) ?_
  rw [hkeywords]
  rintro keyword hkeyword
  obtain rfl := List.mem_singleton.1 hkeyword
  exact type_silent htype

/-- The keyword `items` is silent if the schema is about every item. -/
lemma items_silent {visit : Visit} (hvisit : visit.Steady) {vs : List Value} {item : Fields}
    (h : ∀ w ∈ vs, ∃ o, (visit w (.object item)).resultAt scope [] = .ok o ∧ o.IsSilent) :
    ∃ c, (Applicator.items visit (.array vs) (.object item)).resultAt scope here = .ok c ∧
      c.IsSilent := by
  have hparts : ∀ place ∈ (vs.map (·, Value.object item)).zipIdx, ∃ part : Part Nat,
      (part.place = place.2 ∧ visit.answer scope here
        ⟨[.index place.2], [], place.1.1, place.1.2⟩ = .ok part.outcome) ∧
      part.outcome.IsSilent := by
    rintro ⟨pair, i⟩ hplace
    obtain ⟨w, hw, rfl⟩ := List.mem_map.1 (List.fst_mem_of_mem_zipIdx hplace)
    obtain ⟨o, ho, hchange, hviolations⟩ := h w hw
    exact ⟨⟨i, o.under [.index i] []⟩, ⟨rfl, Visit.answer_eq_ok_iff.2 ⟨o, by simpa using ho, rfl⟩⟩,
      hchange, Outcome.violations_under_eq_nil_iff.2 hviolations⟩
  obtain ⟨parts, hall⟩ := exists_forall₂ hparts
  have hsilent : ∀ part ∈ parts, part.outcome.IsSilent := by
    intro part hpart
    obtain ⟨-, -, -, h⟩ := exists_left_of_forall₂ hall hpart
    exact h
  refine ⟨_, (Applicator.items_ok_iff hvisit).2 (.visited (hall.imp fun _ _ => And.left)), ?_, ?_⟩
  · exact if_pos (List.all_eq_true.2 fun part hpart => by simp [(hsilent part hpart).1])
  · exact List.flatMap_eq_nil_iff.2 fun part hpart => (hsilent part hpart).2

/-- A schema for lists is silent about a list if the schema of the items is about every item. -/
lemma visit_list {fields item : Fields}
    (hkeywords : keywordsOf fields = [(.type, .string "array"), (.items, .object item)])
    {vs : List Value} (hitems : ∀ w ∈ vs, ∃ o,
      (val.visit n w (.object item)).resultAt (scopeInside scope fields) [] = .ok o ∧
        o.IsSilent) :
    ∃ o, (val.visit (n + 1) (.array vs) (.object fields)).resultAt scope here = .ok o ∧
      o.IsSilent := by
  refine visit_silent (lookup_eq_none_of_not_mem (by simp [hkeywords])) rfl ?_
  rw [hkeywords]
  rintro keyword hkeyword
  simp only [List.mem_cons, List.not_mem_nil, or_false] at hkeyword
  rcases hkeyword with rfl | rfl
  · exact type_silent rfl
  · exact items_silent (val.visit_steadies n).visit hitems

lemma visit_textList (hschema : IsTextListSchema schema) (texts : List String) :
    ∃ o, (val.visit (n + 2) (.array (texts.map .string)) schema).resultAt scope here = .ok o ∧
      o.IsSilent := by
  obtain ⟨fields, _, rfl, ⟨item, rfl, hitem⟩, hkeywords⟩ := hschema
  refine visit_list hkeywords fun w hw => ?_
  obtain ⟨text, -, rfl⟩ := List.mem_map.1 hw
  exact visit_typed hitem rfl rfl

/-! ## Validation -/

lemma exists_visitDepth_two (val : Validator) (v schema : Value) :
    ∃ n, val.visitDepth v schema = n + 2 := by
  have hle : 2 ^ 8 ≤ val.visitDepth v schema := Nat.pow_le_pow_left (by omega) 8
  exact ⟨val.visitDepth v schema - 2, by omega⟩

/-- A value that is visited silently is valid and stays as it is. -/
lemma validate_of_silent
    (h : ∃ o, (val.outcome v schema).resultAt val.store.baseUri [] = .ok o ∧ o.IsSilent) :
    ∃ out, val.validate v schema = .ok out ∧ out.value = v := by
  obtain ⟨o, ho, hchange, hviolations⟩ := h
  exact ⟨_, validate_eq_ok_iff.2 ⟨o, ho, hviolations, rfl⟩, by simp [hchange]⟩

/-- A list of texts is valid for a schema for lists of texts, and stays as it is. -/
theorem validate_textList (val : Validator) (hschema : IsTextListSchema schema)
    (texts : List String) :
    ∃ out, val.validate (.array (texts.map .string)) schema = .ok out ∧
      out.value = .array (texts.map .string) := by
  refine validate_of_silent ?_
  obtain ⟨n, hn⟩ := val.exists_visitDepth_two (.array (texts.map .string)) schema
  rw [outcome, hn]
  exact visit_textList hschema texts

end Validator

end ApiContract
