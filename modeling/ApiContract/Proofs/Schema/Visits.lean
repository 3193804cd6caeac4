/-
# Good ends of visits

A visit that comes to a good end has evaluated the keywords of a schema, or it has followed the
reference of one.  Its outcome is put together from theirs, and a validation from the root
document is nothing but such a visit.
-/
import ApiContract.Proofs.Schema.Ends

namespace ApiContract

/-! ## Schemas -/

/-- The scope inside a schema: the schema may open one. -/
def scopeInside (scope : String) (fields : Fields) : String :=
  ((fields.lookup "id").bind Value.string?).elim scope (Reference.join scope)

lemma scopeInside_of_none {scope : String} {fields : Fields}
    (h : (fields.lookup "id").bind Value.string? = none) : scopeInside scope fields = scope := by
  rw [scopeInside, h, Option.elim_none]

lemma scopeInside_of_id {scope uri : String} {fields : Fields}
    (h : (fields.lookup "id").bind Value.string? = some uri) :
    scopeInside scope fields = Reference.join scope uri := by
  rw [scopeInside, h, Option.elim_some]

namespace Keyword

lemma mem_order (k : Keyword) : k ∈ order := by
  cases k <;> decide

lemma mem_keywordsOf {fields : Fields} {k : Keyword} {value : Value} :
    (k, value) ∈ Validator.keywordsOf fields ↔ fields.lookup k.name = some value := by
  simp only [Validator.keywordsOf, List.mem_filterMap, Option.map_eq_some_iff, Prod.mk.injEq]
  constructor
  · rintro ⟨_, -, _, h, rfl, rfl⟩
    exact h
  · exact fun h => ⟨k, mem_order k, value, h, rfl, rfl⟩

end Keyword

namespace Validator

open Walk

variable {val : Validator} {follow : Follow} {visit : Visit} {scope : String}
  {here : List String}

/-- A keyword that is not among those of a schema is not there. -/
lemma lookup_eq_none_of_not_mem {fields : Fields} {k : Keyword}
    (h : k ∉ (keywordsOf fields).map Prod.fst) : fields.lookup k.name = none := by
  cases hlookup : fields.lookup k.name with
  | none => rfl
  | some value => exact absurd (List.mem_map_of_mem (Keyword.mem_keywordsOf.2 hlookup)) h

lemma visitKeyword_ok_iff (hfollow : follow.Steady) (hvisit : visit.Steady) {v : Value}
    {schema : Fields} {k : Keyword}
    {value : Value} {o : Outcome} :
    (val.visitKeyword follow visit v schema k value).resultAt scope here = .ok o ↔
      ∃ c, (k.contribution val follow visit schema v value).resultAt scope here = .ok c ∧
        ⟨c.change, c.applied.getD value, c.violations.map (Violation.tagged k)⟩ = o :=
  bind_pure_ok_iff (Keyword.contribution_steady hfollow hvisit schema k v value)

/-- The keywords of a schema come to a good end one by one, and their outcomes make up the
outcome of the schema. -/
lemma visitKeywords_ok_iff (hfollow : follow.Steady) (hvisit : visit.Steady) {v : Value}
    {fields : Fields} {o : Outcome} :
    (val.visitKeywords follow visit v fields).resultAt scope here = .ok o ↔
      ∃ outcomes : List (Keyword × Outcome),
        List.Forall₂ (fun keyword outcome => outcome.1 = keyword.1 ∧
          (val.visitKeyword follow visit v fields keyword.1 keyword.2).resultAt scope here =
            .ok outcome.2) (keywordsOf fields) outcomes ∧
        o = {
          change := (outcomes.map fun (_, o) => o.change).foldl (layer v) none
          applied := .object (outcomes.map fun (k, o) => (k.name, o.applied))
          violations := outcomes.flatMap fun (_, o) => o.violations } := by
  have hstep := fun k value =>
    (val.visitKeyword_steady hfollow hvisit v fields k value).bind fun o =>
      Steady.pure (ε := SchemaError) (k, o)
  rw [visitKeywords, bind_pure_ok_iff (Steady.mapM fun _ _ => hstep _ _)]
  refine exists_congr fun outcomes => and_congr ?_ eq_comm
  rw [mapM_ok_iff fun _ => hstep _ _]
  -- The outcomes stand beside the keywords they belong to.
  have heq : ∀ (keyword : Keyword × Value) (outcome : Keyword × Outcome),
      (val.visitKeyword follow visit v fields keyword.1 keyword.2 >>= fun o =>
          pure (keyword.1, o)).resultAt scope here = .ok outcome ↔
        outcome.1 = keyword.1 ∧
          (val.visitKeyword follow visit v fields keyword.1 keyword.2).resultAt scope here =
            .ok outcome.2 := by
    rintro ⟨k, value⟩ ⟨k', o⟩
    rw [bind_pure_ok_iff (val.visitKeyword_steady hfollow hvisit v fields _ _)]
    constructor
    · rintro ⟨o', ho', heq⟩
      obtain ⟨rfl, rfl⟩ := Prod.mk.inj heq
      exact ⟨rfl, ho'⟩
    · rintro ⟨rfl, ho⟩
      exact ⟨o, ho, rfl⟩
  exact ⟨List.Forall₂.imp fun _ _ => (heq _ _).1, List.Forall₂.imp fun _ _ => (heq _ _).2⟩

/-- Where nothing is changed, what has been changed before stays. -/
lemma foldl_layer_of_none (v : Value) (earlier : Option Value) {changes : List (Option Value)}
    (h : ∀ change ∈ changes, change = none) : changes.foldl (layer v) earlier = earlier := by
  induction changes with
  | nil => rfl
  | cons change changes ih =>
    obtain ⟨rfl, hchanges⟩ := List.forall_mem_cons.1 h
    rw [List.foldl_cons]
    cases earlier <;> exact ih hchanges

/-- A schema that comes to a good end is an object, and its fields come to a good end in the
scope inside it. -/
lemma visitNode_ok_iff (hfollow : follow.Steady) (hvisit : visit.Steady) {v schema : Value}
    {o : Outcome} :
    (val.visitNode follow visit v schema).resultAt scope here = .ok o ↔
      ∃ fields, schema = .object fields ∧
        (val.visitFields follow visit v fields).resultAt (scopeInside scope fields) here =
          .ok o := by
  rcases schema.object_or with ⟨fields, rfl⟩ | hnot
  · simp only [Value.object.injEq, exists_eq_left']
    rw [visitNode, scopeInside]
    cases (fields.lookup "id").bind Value.string? with
    | none => rfl
    | some uri =>
      dsimp only
      rw [resultAt_inScope (val.visitFields_steady hfollow hvisit v fields), Option.elim]
  · constructor
    · intro h
      unfold visitNode at h
      split at h
      · exact absurd rfl (hnot _)
      · simp at h
    · rintro ⟨fields, rfl, -⟩
      exact absurd rfl (hnot fields)

/-- How the fields of a schema come to a good end: a reference is followed, a null is taken, or
all keywords are evaluated. -/
inductive FieldsEnd (val : Validator) (follow : Follow) (visit : Visit) (scope : String)
    (here : List String) (v : Value) (fields : Fields) (o : Outcome) : Prop
  | ref {value : Value} :
      fields.lookup Keyword.ref.name = some value →
      (val.visitKeyword follow visit v fields .ref value).resultAt scope here = .ok o →
      FieldsEnd val follow visit scope here v fields o
  | null :
      fields.lookup Keyword.ref.name = none → v.isNull → isNullable fields →
      o = ⟨none, .object [], []⟩ → FieldsEnd val follow visit scope here v fields o
  | keywords :
      fields.lookup Keyword.ref.name = none → ¬ (v.isNull ∧ isNullable fields) →
      (val.visitKeywords follow visit v fields).resultAt scope here = .ok o →
      FieldsEnd val follow visit scope here v fields o

lemma visitFields_ok_iff {v : Value} {fields : Fields} {o : Outcome} :
    (val.visitFields follow visit v fields).resultAt scope here = .ok o ↔
      val.FieldsEnd follow visit scope here v fields o := by
  constructor
  · intro h
    unfold visitFields at h
    split at h
    · rename_i href
      exact .ref href h
    · rename_i href
      split at h
      · rename_i hnull
        rw [Bool.and_eq_true] at hnull
        exact .null href hnull.1 hnull.2 (Except.ok.inj h).symm
      · rename_i hnull
        rw [Bool.and_eq_true] at hnull
        exact .keywords href hnull h
  · intro h
    unfold visitFields
    cases h with
    | ref href ho =>
      rw [href]
      exact ho
    | null href hnull hnullable heq =>
      rw [href, hnull, hnullable, heq]
      rfl
    | keywords href hnull ho =>
      rw [href]
      dsimp only
      rw [if_neg (by rwa [Bool.and_eq_true])]
      exact ho

end Validator

/-! ## References -/

namespace Applicator

variable {store : Store} {visit : Visit} {scope : String} {here : List String}

lemma resultAt_follow (hvisit : visit.Steady) (v : Value)
    (reference : String) :
    (follow store visit v reference).resultAt scope here =
      store.resolveUrl (Reference.join scope reference) >>= fun target =>
        if Reference.join scope reference ∈ here then
          .error (.referenceCycle (Reference.join scope reference))
        else
          (visit v target).resultAt (Reference.join scope (Reference.join scope reference))
            (Reference.join scope reference :: here) := by
  have hcheck : ∀ (url : String) (target : Value) (isFollowing : Bool),
      (if isFollowing then Walk.broken (.referenceCycle url)
        else Walk.inScope url (Walk.following url (visit v target)) :
          Walk SchemaError Outcome).Steady := by
    intro url target isFollowing
    split
    · exact Walk.Steady.broken (by simp)
    · exact ((hvisit v target).following url).inScope url
  have hresolve : store.resolve [scope] reference =
      store.resolveUrl (Reference.join scope reference) >>= fun target =>
        .ok (Reference.join scope reference, target) := rfl
  -- Step by step: the reference is resolved, it is looked up, and then it is followed.
  unfold follow
  rw [Walk.resultAt_bind (Walk.Steady.resolve store reference) fun (url, target) =>
    (Walk.Steady.isFollowing url).bind (hcheck url target), Walk.resultAt_resolve, hresolve]
  generalize Reference.join scope reference = url
  rcases store.resolveUrl url with e | target
  · rfl
  · change (Walk.isFollowing url >>= fun isFollowing => if isFollowing then _ else _ :
      Walk SchemaError Outcome).resultAt scope here = if url ∈ here then _ else _
    rw [Walk.resultAt_bind (Walk.Steady.isFollowing url) (hcheck url target),
      Walk.resultAt_isFollowing]
    by_cases hmem : url ∈ here
    · rw [if_pos hmem, List.contains_iff_mem.2 hmem]
      rfl
    · rw [if_neg hmem]
      change (if here.contains url then _ else _ : Walk SchemaError Outcome).resultAt scope here = _
      rw [if_neg (by simpa using hmem),
        Walk.resultAt_inScope ((hvisit v target).following url),
        Walk.resultAt_following (hvisit v target)]

/-- Following a reference comes to a good end if the reference is not being followed yet and
the visit of what it leads to, in the scope it leads to, comes to a good end. -/
lemma follow_ok_iff (hvisit : visit.Steady) {v : Value}
    {reference : String} {o : Outcome} :
    (follow store visit v reference).resultAt scope here = .ok o ↔
      ∃ target, store.resolveUrl (Reference.join scope reference) = .ok target ∧
        Reference.join scope reference ∉ here ∧
        (visit v target).resultAt (Reference.join scope (Reference.join scope reference))
            (Reference.join scope reference :: here) = .ok o := by
  rw [resultAt_follow hvisit, Except.bind_eq_ok_iff]
  refine exists_congr fun target => and_congr_right fun _ => ?_
  split <;> simp [*]

end Applicator

/-! ## Visits of some depth -/

/-- A schema with a single keyword that opens no scope makes of a value what the keyword makes of
it, unless the value is a null that the schema allows. -/
lemma Validator.visit_only_ok_iff (val : Validator) {n : Nat} {scope : String}
    {here : List String} {fields : Fields} {k : Keyword} {v value : Value} {o : Outcome}
    (hk : k ≠ .ref) (hkeywords : keywordsOf fields = [(k, value)])
    (hid : (fields.lookup "id").bind Value.string? = none)
    (hnull : ¬ (v.isNull ∧ isNullable fields)) :
    (val.visit (n + 1) v (.object fields)).resultAt scope here = .ok o ↔
      ∃ c, (k.contribution val (Applicator.follow val.store (val.visit n)) (val.visit n)
          fields v value).resultAt scope here = .ok c ∧
        o = ⟨c.change, .object [(k.name, c.applied.getD value)],
          c.violations.map (Violation.tagged k)⟩ := by
  have hvisit := val.visit_steady n
  have hfollow : (Applicator.follow val.store (val.visit n)).Steady :=
    Applicator.follow_steady val.store hvisit
  have href : fields.lookup Keyword.ref.name = none :=
    lookup_eq_none_of_not_mem (by simpa [hkeywords] using hk.symm)
  have hfields : val.visitFields (Applicator.follow val.store (val.visit n)) (val.visit n) v
      fields = val.visitKeywords (Applicator.follow val.store (val.visit n))
        (val.visit n) v fields := by
    rw [visitFields, href]
    dsimp only
    rw [if_neg (by rwa [Bool.and_eq_true])]
  rw [visit, visitNode_ok_iff hfollow hvisit]
  simp only [Value.object.injEq, exists_eq_left']
  rw [scopeInside_of_none hid, hfields, visitKeywords_ok_iff hfollow hvisit, hkeywords]
  constructor
  · rintro ⟨outcomes, hall, rfl⟩
    obtain ⟨⟨k', o⟩, _, ⟨hk', ho⟩, hnil, rfl⟩ := List.forall₂_cons_left_iff.1 hall
    obtain rfl := List.forall₂_nil_left_iff.1 hnil
    obtain ⟨c, hc, ho⟩ := (visitKeyword_ok_iff hfollow hvisit).1 ho
    dsimp only at hk' ho
    subst hk' ho
    exact ⟨c, hc, by simp [layer]⟩
  · rintro ⟨c, hc, rfl⟩
    exact ⟨[(k, ⟨c.change, c.applied.getD value, c.violations.map (Violation.tagged k)⟩)],
      .cons ⟨rfl, (visitKeyword_ok_iff hfollow hvisit).2 ⟨c, hc, rfl⟩⟩ .nil, by simp [layer]⟩

/-- A schema of a single keyword makes of a value what the keyword makes of it. -/
lemma Validator.visit_single_ok_iff (val : Validator) {n : Nat} {scope : String}
    {here : List String} {k : Keyword} (hk : k ≠ .ref) {v value : Value} {o : Outcome} :
    (val.visit (n + 1) v (.object [(k.name, value)])).resultAt scope here = .ok o ↔
      ∃ c, (k.contribution val (Applicator.follow val.store (val.visit n)) (val.visit n)
          [(k.name, value)] v value).resultAt scope here = .ok c ∧
        o = ⟨c.change, .object [(k.name, c.applied.getD value)],
          c.violations.map (Violation.tagged k)⟩ := by
  refine val.visit_only_ok_iff hk ?_ ?_ fun hnull => ?_
  · cases k <;> rfl
  · cases k <;> rfl
  · have hnullable : isNullable [(k.name, value)] = false := by
      cases k <;> rfl
    simp [hnullable] at hnull

/-- A schema is visited at least to the depth of its keywords. -/
lemma Validator.exists_visitDepth (val : Validator) (v schema : Value) :
    ∃ n, val.visitDepth v schema = n + 1 :=
  Nat.exists_eq_succ_of_ne_zero (Nat.ne_of_gt (Nat.pow_pos (Nat.succ_pos _)))

/-- At the bottom no visit comes to a good end. -/
lemma Validator.visit_zero_ne_ok {val : Validator} {scope : String} {here : List String}
    {v schema : Value} {o : Outcome} : (val.visit 0 v schema).resultAt scope here ≠ .ok o := by
  rw [visit, Walk.resultAt_tooDeep]
  simp

/-! ## Validation from the root document -/

/-- The violations of a schema by a value are those of the visit from the root document. -/
lemma Validator.violationsOf_eq_ok_iff {val : Validator} {v schema : Value} {vs : List Violation} :
    val.violationsOf v schema = .ok vs ↔
      ∃ o, (val.outcome v schema).resultAt val.store.baseUri [] = .ok o ∧ o.violations = vs := by
  change (val.violations v schema).resultAt val.store.baseUri [] = .ok vs ↔ _
  exact Walk.bind_pure_ok_iff (val.outcome_steady v schema)

/-- A value is valid if the visit from the root document comes to a good end without violations;
it comes back as the visit has changed it. -/
lemma Validator.validate_eq_ok_iff {val : Validator} {v schema : Value} {out : Validated} :
    val.validate v schema = .ok out ↔
      ∃ o, (val.outcome v schema).resultAt val.store.baseUri [] = .ok o ∧ o.violations = [] ∧
        out = ⟨o.change.getD v, o.change.isSome, o.applied⟩ := by
  have houtcome : (val.outcome v schema).resultAt val.store.baseUri [] =
      ((val.outcome v schema).exec (Session.start val.store .empty)).1 := rfl
  have hvalidate : val.validate v schema =
      ((val.validated v schema).exec (Session.start val.store .empty)).1 := rfl
  rw [houtcome, hvalidate, validated, Walk.exec_bind, Walk.exec_mapError]
  rcases (val.outcome v schema).exec (Session.start val.store .empty) with ⟨e | o, s⟩
  · simp [Except.mapError]
  · simp only [Except.mapError, Except.ok.injEq, exists_eq_left']
    cases hviolations : o.violations with
    | nil => exact ⟨fun h => ⟨rfl, (Except.ok.inj h).symm⟩, fun h => by rw [h.2]; rfl⟩
    | cons x xs =>
      refine iff_of_false (fun h => ?_) (by simp)
      simp [Violations.ofList?] at h

/-- A validation is fatal if its search for violations is: the schema is broken. -/
lemma Validator.validate_eq_error_iff {val : Validator} {v schema : Value} {e : SchemaError} :
    val.validate v schema = .error (Failure.ofSchema e) ↔ val.violationsOf v schema = .error e := by
  have hvalidate : val.validate v schema =
      ((val.validated v schema).exec (Session.start val.store .empty)).1 := rfl
  have hviolations : val.violationsOf v schema =
      ((val.violations v schema).exec (Session.start val.store .empty)).1 := rfl
  rw [hvalidate, hviolations, validated, violations, Walk.exec_bind, Walk.exec_bind,
    Walk.exec_mapError]
  rcases (val.outcome v schema).exec (Session.start val.store .empty) with ⟨e' | o, s⟩
  · change Except.error (Failure.ofSchema e') = _ ↔ Except.error e' = _
    simp only [Except.error.injEq]
    exact ⟨SchemaFault.ofSchema_inj (ε := Failure), fun h => by rw [h]⟩
  · refine iff_of_false (fun h => ?_) (by simp)
    simp only [Except.mapError] at h
    split at h
    · cases e <;> simp [Failure.ofSchema] at h
    · simp at h

end ApiContract
