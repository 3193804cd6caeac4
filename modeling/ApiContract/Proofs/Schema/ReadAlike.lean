/-
# Schemas that read alike in two scopes

The scope that a schema stands in matters for its links only: for the references in it, and for
the scopes it opens.  If every link leads to the same place from two scopes, then the schema makes
the same of a value in both.  Only the error of a search that is given up may differ, as it names
the scope in which this happens.

What is more, the root document matters for nothing but the scope in which a walk begins.
-/
import ApiContract.Proofs.Schema.CycleCheck
import ApiContract.Proofs.Schema.Defaults
import ApiContract.Proofs.Walk.Agreement

namespace ApiContract

open Validator (reference?)

/-- A link reads alike in two scopes: it leads to the same scope, and so does following it. -/
def Reference.ReadsAlike (s t link : String) : Prop :=
  join s link = join t link ∧ join s (join s link) = join t (join t link)

instance (s t link : String) : Decidable (Reference.ReadsAlike s t link) :=
  inferInstanceAs (Decidable (_ ∧ _))

/-- All links in a schema read alike in two scopes. -/
def Value.ReadsAlike (s t : String) (schema : Value) : Prop :=
  ∀ link ∈ schema.links, Reference.ReadsAlike s t link

instance (s t : String) (schema : Value) : Decidable (schema.ReadsAlike s t) :=
  inferInstanceAs (Decidable (∀ link ∈ _, _))

lemma Value.contains_of_get? {schema value : Value} {key : String}
    (h : schema.get? key = some value) : schema.Contains value := by
  cases schema with
  | object fields => exact (partOf_of_lookup h).contains
  | _ => cases h

namespace Value.ReadsAlike

variable {s t : String} {schema sub : Value}

lemma refl (s : String) (schema : Value) : schema.ReadsAlike s s :=
  fun _ _ => ⟨rfl, rfl⟩

lemma symm (h : schema.ReadsAlike s t) : schema.ReadsAlike t s :=
  fun link hlink => (h link hlink).imp Eq.symm Eq.symm

lemma trans {u : String} (h : schema.ReadsAlike s t) (h' : schema.ReadsAlike t u) :
    schema.ReadsAlike s u :=
  fun link hlink => ⟨(h link hlink).1.trans (h' link hlink).1,
    (h link hlink).2.trans (h' link hlink).2⟩

lemma of_contains (h : schema.ReadsAlike s t) (hsub : schema.Contains sub) : sub.ReadsAlike s t :=
  fun link hlink => h link (hsub.links_subset hlink)

lemma of_lookup {fields : Fields} {name link : String} (h : (object fields).ReadsAlike s t)
    (hname : name = Keyword.ref.name ∨ name = "id")
    (hlink : fields.lookup name = some (.string link)) :
    Reference.ReadsAlike s t link :=
  h link (Value.mem_links (.refl _) hname hlink)

lemma of_reference? {reference : String} (h : schema.ReadsAlike s t)
    (href : reference? schema = some reference) : Reference.ReadsAlike s t reference := by
  obtain ⟨fields, rfl, hlookup⟩ := exists_fields_of_reference? href
  exact h.of_lookup (Or.inl rfl) hlookup

end Value.ReadsAlike

/-! ## Defaults and formats -/

namespace Validator

open Walk

variable {val : Validator} {store : Store} {s t : String} {schema : Value}

lemma tooDeep_upTo {α : Type} :
    (tooDeep : Walk SchemaError α).UpTo SchemaError.IsCycle s t tooDeep :=
  ⟨.tooDeep, .tooDeep, fun _ => .error ⟨s, rfl⟩ _⟩

/-- A walk that follows a reference which reads alike does not depend on the scope. -/
lemma resolve_readsAlike {ε α : Type} [SchemaFault ε] {P : SchemaError → Prop} {reference : String}
    (h : Reference.ReadsAlike s t reference) {f : Value → Walk ε α}
    (hf : ∀ target, (f target).Steady) :
    (Walk.resolve store reference >>= fun found => Walk.inScope found.1 (f found.2)).UpTo P s t
      (Walk.resolve store reference >>= fun found => Walk.inScope found.1 (f found.2)) :=
  .resolve hf hf h.1 rfl fun target _ => h.2 ▸ .refl (hf target)

lemma findDefault_readsAlike (n : Nat) (h : schema.ReadsAlike s t) :
    (findDefault store n schema).UpTo SchemaError.IsCycle s t (findDefault store n schema) := by
  induction n generalizing schema with
  | zero => exact tooDeep_upTo
  | succ n ih =>
    rw [findDefault]
    split
    · rename_i href
      exact resolve_readsAlike (h.of_reference? href) (findDefault_steady store n)
    · split
      · exact .pure _
      · split
        · rename_i branches hbranches
          obtain ⟨value, hvalue, hitems⟩ := Option.bind_eq_some_iff.1 hbranches
          obtain rfl := Value.array?_eq_some_iff.1 hitems
          have hinside := Value.contains_of_get? hvalue
          refine (UpTo.mapM fun branch hmem => ?_).bind fun found => ?_
          · exact ih (h.of_contains (hinside.trans (Value.PartOf.item hmem).contains))
          · split <;> exact .pure _
        · exact .pure _

lemma declaredFormat_readsAlike (n : Nat) (h : schema.ReadsAlike s t) :
    (declaredFormat store n schema).UpTo SchemaError.IsCycle s t
      (declaredFormat store n schema) := by
  cases n with
  | zero => exact tooDeep_upTo
  | succ n =>
    rw [declaredFormat]
    split
    · rename_i href
      exact resolve_readsAlike (h.of_reference? href) (declaredFormat_steady store n)
    · exact .pure _

lemma declaredDefault_readsAlike (h : schema.ReadsAlike s t) :
    (val.declaredDefault schema).UpTo SchemaError.IsCycle s t (val.declaredDefault schema) := by
  rw [declaredDefault]
  split
  · exact findDefault_readsAlike _ h
  · exact .pure _

lemma typedDefault_readsAlike (default : Value) (h : schema.ReadsAlike s t) :
    (val.typedDefault default schema).UpTo SchemaError.IsCycle s t
      (val.typedDefault default schema) := by
  rw [typedDefault]
  refine (declaredFormat_readsAlike _ h).bind fun format => ?_
  split
  · exact .pure _
  · split <;> exact .pure _

end Validator

/-! ## Keywords -/

/-- Answers that agree lead to results that do. -/
lemma Plan.Within.run_upTo {α : Type} {P : SchemaError → Prop} {asks : Question → Prop}
    {answer answer' : Question → Except SchemaError Outcome} {plan : Plan α} (h : plan.Within asks)
    (hanswer : ∀ q, asks q → Except.UpTo P (answer q) (answer' q)) :
    Except.UpTo P (plan.run answer) (plan.run answer') := by
  induction h with
  | ok | error => exact .refl _
  | ask hq _ ih => exact (hanswer _ hq).bind fun o _ => ih o

/-- Visits of a schema and of everything in it do not depend on which of two scopes they are in. -/
def Visit.ReadsAlike (visit : Visit) (s t : String) (schema : Value) : Prop :=
  ∀ sub v, schema.Contains sub → (visit v sub).UpTo SchemaError.IsCycle s t (visit v sub)

namespace Applicator

variable {val : Validator} {visit : Visit} {s t : String} {schema : Value}

lemma child_readsAlike {κ : Type} {v : Value}
    (h : (visit v schema).UpTo SchemaError.IsCycle s t (visit v schema)) (place : κ)
    (path schemaPath : List PathStep) :
    (child visit place v schema path schemaPath).UpTo SchemaError.IsCycle s t
      (child visit place v schema path schemaPath) :=
  h.onChild.bind fun _ => .pure _

lemma property_readsAlike (h : schema.ReadsAlike s t)
    (hvisit : ∀ v, (visit v schema).UpTo SchemaError.IsCycle s t (visit v schema))
    (fields : Fields) (name : String) :
    (property val visit fields name schema).UpTo SchemaError.IsCycle s t
      (property val visit fields name schema) := by
  unfold property
  split
  · exact child_readsAlike (hvisit _) _ _ _
  · refine (Validator.declaredDefault_readsAlike h).bind fun default => ?_
    split
    · exact .pure _
    · split
      · exact (child_readsAlike (hvisit _) _ _ _).bind fun _ => .pure _
      · exact (Validator.typedDefault_readsAlike _ h).bind fun _ => .pure _

lemma properties_readsAlike {value : Value} (h : value.ReadsAlike s t)
    (hvisit : visit.ReadsAlike s t value) (v : Value) :
    (properties val visit v value).UpTo SchemaError.IsCycle s t
      (properties val visit v value) := by
  unfold properties
  split
  · split
    · refine (Walk.UpTo.mapM fun field hmem => ?_).bind fun _ => .pure _
      have hsub : (Value.object _).Contains field.2 := (Value.PartOf.field hmem).contains
      exact property_readsAlike (h.of_contains hsub) (fun w => hvisit field.2 w hsub) _ field.1
    · exact .pure _
  · exact .broken (by simp [Constraint.malformed])

end Applicator

namespace Keyword

variable {val : Validator} {visit : Visit} {s t : String}

/-- Apart from `properties`, keywords do not care whether missing properties are filled. -/
lemma contribution_of_ne_properties {k : Keyword} (hk : k ≠ properties) (follow : Follow)
    (schema : Fields) (v value : Value) :
    k.contribution { val with fills := false } follow visit schema v value =
      k.contribution val follow visit schema v value := by
  cases k <;> first | exact absurd rfl hk | rfl

lemma contribution_readsAlike (hsteady : visit.Steady) {k : Keyword} {fields : Fields}
    {value : Value} (hlookup : fields.lookup k.name = some value)
    (h : (Value.object fields).ReadsAlike s t) (hvisit : visit.ReadsAlike s t value) (v : Value) :
    (k.contribution val (Applicator.follow val.store visit) visit fields v value).UpTo
      SchemaError.IsCycle s t
      (k.contribution val (Applicator.follow val.store visit) visit fields v value) := by
  have hvalue := h.of_contains (Value.partOf_of_lookup hlookup).contains
  have hsteadies : Steadies (Applicator.follow val.store visit) visit :=
    ⟨Applicator.follow_steady val.store hsteady, hsteady⟩
  by_cases hk : k = properties
  · subst hk
    exact Applicator.properties_readsAlike hvalue hvisit v
  · -- Without filling the keyword follows a plan, so that only its answers matter.
    have hfills : ({ val with fills := false } : Validator).fills = false := rfl
    have hplanned := contribution_planned hfills fields k v value
    rw [← contribution_of_ne_properties hk]
    obtain ⟨plan, hwithin, hplan⟩ := hplanned.plan
    refine ⟨hplanned.steady hsteadies, hplanned.steady hsteadies, fun here => ?_⟩
    rw [hplan hsteadies, hplan hsteadies]
    refine hwithin.run_upTo fun q hq => ?_
    cases hq with
    | visit ha => exact ((hvisit _ _ ha.contains).result _).map _
    | follow hk hreference =>
      subst hk hreference
      obtain ⟨hurl, hscope⟩ := h.of_lookup (Or.inl rfl) hlookup
      rw [Question.answer, Question.answer, Applicator.resultAt_follow hsteady,
        Applicator.resultAt_follow hsteady, hscope, hurl]
      exact .refl _

end Keyword

/-! ## Schemas -/

namespace Validator

variable {val : Validator} {s t : String}

lemma visitKeyword_readsAlike {visit : Visit} (hsteady : visit.Steady) {k : Keyword}
    {fields : Fields} {value : Value} (hlookup : fields.lookup k.name = some value)
    (h : (Value.object fields).ReadsAlike s t) (hvisit : visit.ReadsAlike s t (.object fields))
    (v : Value) :
    (val.visitKeyword (Applicator.follow val.store visit) visit v fields k value).UpTo
      SchemaError.IsCycle s t
      (val.visitKeyword (Applicator.follow val.store visit) visit v fields k value) := by
  have hpart := (Value.partOf_of_lookup hlookup).contains
  refine (Keyword.contribution_readsAlike hsteady hlookup h (fun sub w hsub => ?_) v).bind
    fun _ => .pure _
  exact hvisit sub w (hpart.trans hsub)

lemma visitFields_readsAlike {visit : Visit} (hsteady : visit.Steady) {fields : Fields}
    (h : (Value.object fields).ReadsAlike s t) (hvisit : visit.ReadsAlike s t (.object fields))
    (v : Value) :
    (val.visitFields (Applicator.follow val.store visit) visit v fields).UpTo
      SchemaError.IsCycle s t
      (val.visitFields (Applicator.follow val.store visit) visit v fields) := by
  unfold visitFields
  split
  · rename_i href
    exact visitKeyword_readsAlike hsteady href h hvisit v
  · split
    · exact .pure _
    · refine (Walk.UpTo.mapM fun keyword hmem => ?_).bind fun _ => .pure _
      have hlookup := Keyword.mem_keywordsOf.1 hmem
      exact (visitKeyword_readsAlike hsteady hlookup h hvisit v).bind fun _ => .pure _

/-- A schema that reads alike in two scopes makes the same of a value in both. -/
theorem visit_readsAlike (val : Validator) (n : Nat) {schema : Value} (h : schema.ReadsAlike s t)
    (v : Value) : (val.visit n v schema).UpTo SchemaError.IsCycle s t (val.visit n v schema) := by
  induction n generalizing schema v with
  | zero => exact tooDeep_upTo
  | succ n ih =>
    have hsteadies := val.visit_steadies n
    rw [visit]
    unfold visitNode
    split
    · rename_i fields
      split
      · -- The schema opens a scope, and this is the same from both.
        rename_i uri hid
        obtain ⟨value, hlookup, hstring⟩ := Option.bind_eq_some_iff.1 hid
        obtain rfl := Value.string?_eq_some_iff.1 hstring
        obtain ⟨hjoin, -⟩ := h.of_lookup (Or.inr rfl) hlookup
        refine .inScope ?_
        rw [hjoin]
        exact .refl (val.visitFields_steady hsteadies.follow hsteadies.visit v fields)
      · exact visitFields_readsAlike hsteadies.visit h
          (fun sub w hsub => ih (h.of_contains hsub) w) v
    · exact .broken (by simp)

lemma violations_readsAlike (val : Validator) {schema : Value} (h : schema.ReadsAlike s t)
    (v : Value) :
    (val.violations v schema).UpTo SchemaError.IsCycle s t (val.violations v schema) :=
  (val.visit_readsAlike _ h v).bind fun _ => .pure _

/-! ## The root document -/

/-- A validator with the same documents, another one of which is the root. -/
def based (val : Validator) (uri : String) : Validator :=
  { val with store := { val.store with baseUri := uri } }

lemma findDefault_based (store : Store) (uri : String) (n : Nat) :
    findDefault { store with baseUri := uri } n = findDefault store n := by
  induction n with
  | zero => rfl
  | succ n ih =>
    funext schema
    rw [findDefault, findDefault, ih]
    rfl

lemma declaredFormat_based (store : Store) (uri : String) (n : Nat) :
    declaredFormat { store with baseUri := uri } n = declaredFormat store n := by
  induction n with
  | zero => rfl
  | succ n ih =>
    funext schema
    rw [declaredFormat, declaredFormat, ih]
    rfl

lemma contribution_based (val : Validator) (uri : String) (follow : Follow) (visit : Visit)
    (schema : Fields) (k : Keyword) (v value : Value) :
    k.contribution (val.based uri) follow visit schema v value =
      k.contribution val follow visit schema v value := by
  by_cases hk : k = .properties
  · subst hk
    simp only [Keyword.contribution, Applicator.properties, Applicator.property, declaredDefault,
      typedDefault, based, findDefault_based, declaredFormat_based]
  · cases k <;> first | exact absurd rfl hk | rfl

lemma visit_based (val : Validator) (uri : String) (n : Nat) (v schema : Value) :
    (val.based uri).visit n v schema = val.visit n v schema := by
  induction n generalizing v schema with
  | zero => rfl
  | succ n ih =>
    have hvisit : (val.based uri).visit n = val.visit n := funext₂ ih
    have hfollow : Applicator.follow (val.based uri).store (val.visit n) =
        Applicator.follow val.store (val.visit n) := rfl
    simp only [visit, visitNode, visitFields, visitKeywords, visitKeyword, contribution_based,
      hvisit, hfollow]

/-- With another root document a validation only begins in another scope. -/
lemma violationsOf_based (val : Validator) (uri : String) (v schema : Value) :
    (val.based uri).violationsOf v schema = (val.violations v schema).resultAt uri [] := by
  have hdepth : (val.based uri).visitDepth v schema = val.visitDepth v schema := rfl
  have hviolations : (val.based uri).violations v schema = val.violations v schema := by
    simp only [violations, outcome, hdepth, visit_based]
  rw [← hviolations]
  rfl

end Validator

end ApiContract
