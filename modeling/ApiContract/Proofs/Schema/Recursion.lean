/-
# The recursion of visits

A visit goes as deep as it is allowed to.  Below that depth there is a floor, and if the visit
comes to its result without the floor, then the recursion has come to an end: the result is
the same for every floor and for every greater depth.

The recursion may follow references with or without asking whether they are being followed
already.  Without the question, a recursion either comes to an end, whatever the references
being followed are, or it comes down to the floor and fails as the floor does.
-/
import ApiContract.Proofs.Schema.Plan

namespace ApiContract

namespace Validator

/-! ## Visits above a floor -/

/-- A visit of some depth above a floor, given how references are followed. -/
def visitAbove (val : Validator) (follow : Visit → Follow) (floor : Visit) : Nat → Visit
  | 0 => floor
  | n + 1 => val.visitNode (follow (val.visitAbove follow floor n)) (val.visitAbove follow floor n)

/-- A visit is a visit above a floor that no walk may reach. -/
lemma visit_eq_visitAbove (val : Validator) (n : Nat) :
    val.visit n = val.visitAbove (Applicator.follow val.store) (fun _ _ => tooDeep) n := by
  induction n with
  | zero => rfl
  | succ n ih =>
    funext v schema
    rw [visitAbove, ← ih]
    rfl

/-- A visit above a visit above a floor. -/
lemma visitAbove_add (val : Validator) (follow : Visit → Follow) (floor : Visit) (m n : Nat) :
    val.visitAbove follow floor (m + n) =
      val.visitAbove follow (val.visitAbove follow floor m) n := by
  induction n with
  | zero => rfl
  | succ n ih => rw [← Nat.add_assoc, visitAbove, visitAbove, ih]

end Validator

/-- References are followed by steady walks as long as visits are. -/
def FollowsSteadily (follow : Visit → Follow) : Prop :=
  ∀ {visit : Visit}, visit.Steady → (follow visit).Steady

namespace Validator

variable {val : Validator} {follow : Visit → Follow} {floor : Visit}

lemma visitAbove_steady (hfollow : FollowsSteadily follow) (hfloor : floor.Steady) (n : Nat) :
    (val.visitAbove follow floor n).Steady := by
  induction n with
  | zero => exact hfloor
  | succ n ih => exact val.visitNode_steady (hfollow ih) ih

lemma visitAbove_steadies (hfollow : FollowsSteadily follow) (hfloor : floor.Steady) (n : Nat) :
    Steadies (follow (val.visitAbove follow floor n)) (val.visitAbove follow floor n) :=
  ⟨hfollow (visitAbove_steady hfollow hfloor n), visitAbove_steady hfollow hfloor n⟩

/-- What is not an object is no schema, at any depth. -/
lemma visitAbove_of_not_object {schema : Value} (h : ∀ fields, schema ≠ .object fields) (n : Nat)
    (v : Value) (scope : String) (here : List String) :
    (val.visitAbove follow floor (n + 1) v schema).resultAt scope here =
      .error (.malformed s!"schema must be an object, found {schema.kind}") := by
  cases schema with
  | object fields => exact absurd rfl (h fields)
  | null | bool | integer | number | string | array | date | dateTime | bytes | ip => rfl

end Validator

/-! ## Following without asking -/

namespace Applicator

/-- Validates against what a reference leads to, whether or not the reference is already being
followed. -/
def followUnchecked (store : Store) (visit : Visit) : Follow := fun v reference => do
  let (url, target) ← Walk.resolve store reference
  Walk.inScope url (Walk.following url (visit v target))

variable {store : Store} {visit : Visit} {scope : String} {here : List String}

lemma follow_steadily (store : Store) : FollowsSteadily (follow store) :=
  fun hvisit v reference => follow_steady store hvisit v reference

lemma followUnchecked_steadily (store : Store) : FollowsSteadily (followUnchecked store) :=
  fun hvisit _ reference => (Walk.Steady.resolve store reference).bind fun found =>
    ((hvisit _ found.2).following found.1).inScope found.1

lemma resultAt_followUnchecked (hvisit : visit.Steady) (v : Value) (reference : String) :
    (followUnchecked store visit v reference).resultAt scope here =
      store.resolveUrl (Reference.join scope reference) >>= fun target =>
        (visit v target).resultAt (Reference.join scope (Reference.join scope reference))
          (Reference.join scope reference :: here) := by
  have hresolve : store.resolve [scope] reference =
      store.resolveUrl (Reference.join scope reference) >>= fun target =>
        .ok (Reference.join scope reference, target) := rfl
  rw [followUnchecked, Walk.resultAt_bind (Walk.Steady.resolve store reference) fun found =>
    ((hvisit v found.2).following found.1).inScope found.1, Walk.resultAt_resolve, hresolve]
  cases store.resolveUrl (Reference.join scope reference) with
  | error e => rfl
  | ok target =>
    show (Walk.inScope _ (Walk.following _ (visit v target))).resultAt scope here = _
    rw [Walk.resultAt_inScope ((hvisit v target).following _),
      Walk.resultAt_following (hvisit v target)]
    rfl

end Applicator

/-! ## Results above a floor -/

/-- Results above a floor, by the floor and the references being followed. -/
abbrev Floored (α : Type) := Visit → List String → Except SchemaError α

namespace Floored

variable {α : Type} {results : Floored α} {r : Except SchemaError α}

/-- The result is the same for every floor and for all references being followed. -/
def Settles (results : Floored α) (r : Except SchemaError α) : Prop :=
  ∀ floor : Visit, floor.Steady → ∀ here, results floor here = r

/-- The floor is reached: the result is an error if the floor is that error. -/
def Sinks (results : Floored α) : Prop :=
  ∀ e, e ≠ .scopeUnderflow → ∀ here, results (fun _ _ => Walk.broken e) here = .error e

lemma broken_steady {e : SchemaError} (h : e ≠ .scopeUnderflow) :
    Visit.Steady fun _ _ => Walk.broken e :=
  fun _ _ => Walk.Steady.broken h

lemma Settles.not_sinks (h : results.Settles r) : ¬ results.Sinks := by
  intro hsinks
  -- Two floors with different errors would give the same result.
  have hone := h _ (broken_steady (e := .malformed "") (by simp)) []
  have htwo := h _ (broken_steady (e := .invalidPattern "") (by simp)) []
  rw [hsinks _ (by simp)] at hone htwo
  simp [← hone] at htwo

lemma Settles.eq {r' : Except SchemaError α} (h : results.Settles r) (h' : results.Settles r') :
    r = r' := by
  have hsteady := broken_steady (e := .malformed "") (by simp)
  exact (h _ hsteady []).symm.trans (h' _ hsteady [])

end Floored

namespace Plan

variable {α : Type} {asks : Question → Prop} {answers : Question → Floored Outcome}

/-- The results of a plan, given results for its questions. -/
def runAbove (answers : Question → Floored Outcome) (plan : Plan α) : Floored α :=
  fun floor here => plan.run fun q => answers q floor here

lemma runAbove_ask_of_settles {q : Question} {next : Outcome → Plan α} {o : Outcome}
    (h : (answers q).Settles (.ok o)) {floor : Visit} (hfloor : floor.Steady)
    (here : List String) :
    (ask q next).runAbove answers floor here = (next o).runAbove answers floor here := by
  show answers q floor here >>= _ = _
  rw [h floor hfloor here]
  rfl

/-- If every answer either settles or sinks, then so does the result. -/
lemma Within.settles_or_sinks {plan : Plan α} (hplan : plan.Within asks)
    (hanswers : ∀ q, asks q → (∃ r, (answers q).Settles r) ∨ (answers q).Sinks) :
    (∃ r, (plan.runAbove answers).Settles r) ∨ (plan.runAbove answers).Sinks := by
  induction hplan with
  | ok a => exact Or.inl ⟨.ok a, fun _ _ _ => rfl⟩
  | @error e _ => exact Or.inl ⟨.error e, fun _ _ _ => rfl⟩
  | @ask q next hq _ ih =>
    rcases hanswers q hq with ⟨e | o, hsettles⟩ | hsinks
    · -- An error of a question is the result, so nothing is asked after it.
      left
      refine ⟨.error e, fun floor hfloor here => ?_⟩
      show answers q floor here >>= _ = _
      rw [hsettles floor hfloor here]
      rfl
    · rcases ih o with ⟨r, hr⟩ | hsinks
      · left
        refine ⟨r, fun floor hfloor here => ?_⟩
        rw [runAbove_ask_of_settles hsettles hfloor, hr floor hfloor here]
      · right
        intro e he here
        rw [runAbove_ask_of_settles hsettles (Floored.broken_steady he), hsinks e he here]
    · right
      intro e he here
      show answers q _ here >>= _ = _
      rw [hsinks e he here]
      rfl

/-- If the result settles, then the answers on the way to it settle; so answers that agree with
the settled ones lead to the same result. -/
lemma Within.run_of_settles {plan : Plan α} (hplan : plan.Within asks)
    (hanswers : ∀ q, asks q → (∃ r, (answers q).Settles r) ∨ (answers q).Sinks)
    {answer : Question → Except SchemaError Outcome}
    (hagree : ∀ q r, asks q → (answers q).Settles r → answer q = r)
    {r : Except SchemaError α} (h : (plan.runAbove answers).Settles r) :
    plan.run answer = r := by
  have hsteady := Floored.broken_steady (e := .malformed "") (by simp)
  induction hplan with
  | ok | error => exact h _ hsteady []
  | @ask q next hq _ ih =>
    rcases hanswers q hq with ⟨e | o, hsettles⟩ | hsinks
    · have hresult := h _ hsteady []
      rw [run, hagree q _ hq hsettles, ← hresult]
      show _ = answers q _ [] >>= _
      rw [hsettles _ hsteady []]
      rfl
    · rw [run, hagree q _ hq hsettles]
      refine ih o fun floor hfloor here => ?_
      rw [← runAbove_ask_of_settles hsettles hfloor, h floor hfloor here]
    · -- A question that sinks would make the plan sink.
      refine absurd (fun e he here => ?_) h.not_sinks
      show answers q _ here >>= _ = _
      rw [hsinks e he here]
      rfl

end Plan

/-! ## The recursion without asking -/

namespace Validator

variable (val : Validator)

/-- The results of a visit of some depth that follows references without asking whether they
are being followed already. -/
def unchecked (n : Nat) (v schema : Value) (scope : String) : Floored Outcome :=
  fun floor here =>
    (val.visitAbove (Applicator.followUnchecked val.store) floor n v schema).resultAt scope here

/-- What visits of some depth make of a question, when references are followed without
asking. -/
def uncheckedAnswers (n : Nat) (scope : String) (q : Question) : Floored Outcome :=
  fun floor here =>
    Question.answer
      (Applicator.followUnchecked val.store
        (val.visitAbove (Applicator.followUnchecked val.store) floor n))
      (val.visitAbove (Applicator.followUnchecked val.store) floor n) scope here q

/-- The recursion comes to an end: some depth suffices for a result without the floor. -/
def HaltsUnchecked (scope : String) (v schema : Value) (r : Except SchemaError Outcome) : Prop :=
  ∃ n, ∀ floor : Visit, floor.Steady →
    (val.visitAbove (Applicator.followUnchecked val.store) floor n v schema).resultAt scope [] = r

variable {val}

lemma uncheckedAnswers_visit (n : Nat) (scope : String) (a : Ask) (floor : Visit)
    (here : List String) :
    val.uncheckedAnswers n scope (.visit a) floor here =
      (·.under a.path a.schemaPath) <$>
        val.unchecked n a.value a.schema scope floor (if a.path = [] then here else []) :=
  rfl

lemma uncheckedAnswers_follow (n : Nat) (scope : String) (v : Value) (reference : String)
    {floor : Visit} (hfloor : floor.Steady) (here : List String) :
    val.uncheckedAnswers n scope (.follow v reference) floor here =
      val.store.resolveUrl (Reference.join scope reference) >>= fun target =>
        val.unchecked n v target (Reference.join scope (Reference.join scope reference)) floor
          (Reference.join scope reference :: here) :=
  Applicator.resultAt_followUnchecked
    (visitAbove_steady (Applicator.followUnchecked_steadily val.store) hfloor n) v reference

/-- Every answer settles or sinks if all visits of the same depth do. -/
lemma uncheckedAnswers_settles_or_sinks {n : Nat}
    (ih : ∀ v schema scope, (∃ r, (val.unchecked n v schema scope).Settles r) ∨
      (val.unchecked n v schema scope).Sinks) (scope : String) (q : Question) :
    (∃ r, (val.uncheckedAnswers n scope q).Settles r) ∨
      (val.uncheckedAnswers n scope q).Sinks := by
  cases q with
  | visit a =>
    rcases ih a.value a.schema scope with ⟨r, hr⟩ | hsinks
    · left
      refine ⟨(·.under a.path a.schemaPath) <$> r, fun floor hfloor here => ?_⟩
      rw [uncheckedAnswers_visit, hr floor hfloor]
    · right
      intro e he here
      rw [uncheckedAnswers_visit, hsinks e he]
      rfl
  | follow v reference =>
    cases hfound : val.store.resolveUrl (Reference.join scope reference) with
    | error e =>
      left
      refine ⟨.error e, fun floor hfloor here => ?_⟩
      rw [uncheckedAnswers_follow n scope v reference hfloor, hfound]
      rfl
    | ok target =>
      rcases ih v target (Reference.join scope (Reference.join scope reference)) with
        ⟨r, hr⟩ | hsinks
      · left
        refine ⟨r, fun floor hfloor here => ?_⟩
        rw [uncheckedAnswers_follow n scope v reference hfloor, hfound]
        exact hr floor hfloor _
      · right
        intro e he here
        rw [uncheckedAnswers_follow n scope v reference (Floored.broken_steady he), hfound]
        exact hsinks e he _

/-- **A recursion that follows references without asking** either comes to an end or comes down
to the floor. -/
theorem unchecked_settles_or_sinks (hfills : val.fills = false) (n : Nat) (v schema : Value)
    (scope : String) :
    (∃ r, (val.unchecked n v schema scope).Settles r) ∨
      (val.unchecked n v schema scope).Sinks := by
  induction n generalizing v schema scope with
  | zero => exact Or.inr fun _ _ _ => rfl
  | succ n ih =>
    rcases schema.object_or with ⟨fields, rfl⟩ | hnot
    · obtain ⟨plan, hwithin, hplan⟩ := visitNode_planned hfills v fields
      have heq : ∀ floor : Visit, floor.Steady → ∀ here,
          val.unchecked (n + 1) v (.object fields) scope floor here =
            plan.runAbove (val.uncheckedAnswers n (scopeInside scope fields)) floor here :=
        fun floor hfloor here => hplan (visitAbove_steadies
          (Applicator.followUnchecked_steadily val.store) hfloor n) scope here
      rcases hwithin.settles_or_sinks fun q _ =>
          uncheckedAnswers_settles_or_sinks ih (scopeInside scope fields) q with
        ⟨r, hr⟩ | hsinks
      · exact Or.inl ⟨r, fun floor hfloor here =>
          (heq floor hfloor here).trans (hr floor hfloor here)⟩
      · exact Or.inr fun e he here =>
          (heq _ (Floored.broken_steady he) here).trans (hsinks e he here)
    · left
      exact ⟨_, fun floor _ here => visitAbove_of_not_object hnot n v scope here⟩

/-- A visit that settles as an answer settles by itself. -/
lemma settles_of_visit (hfills : val.fills = false) {n : Nat} {scope : String} {a : Ask}
    {r : Except SchemaError Outcome} (h : (val.uncheckedAnswers n scope (.visit a)).Settles r) :
    ∃ r', (val.unchecked n a.value a.schema scope).Settles r' ∧
      r = (·.under a.path a.schemaPath) <$> r' := by
  rcases unchecked_settles_or_sinks hfills n a.value a.schema scope with ⟨r', hr'⟩ | hsinks
  · refine ⟨r', hr', h.eq fun floor hfloor here => ?_⟩
    rw [uncheckedAnswers_visit, hr' floor hfloor]
  · refine absurd (fun e he here => ?_) h.not_sinks
    rw [uncheckedAnswers_visit, hsinks e he]
    rfl

/-- A reference that settles as an answer leads nowhere, or the visit of its target settles. -/
lemma settles_of_follow (hfills : val.fills = false) {n : Nat} {scope : String} {v : Value}
    {reference : String} {r : Except SchemaError Outcome}
    (h : (val.uncheckedAnswers n scope (.follow v reference)).Settles r) :
    (∃ e, val.store.resolveUrl (Reference.join scope reference) = .error e ∧ r = .error e) ∨
      ∃ target, val.store.resolveUrl (Reference.join scope reference) = .ok target ∧
        (val.unchecked n v target
          (Reference.join scope (Reference.join scope reference))).Settles r := by
  cases hfound : val.store.resolveUrl (Reference.join scope reference) with
  | error e =>
    left
    refine ⟨e, rfl, h.eq fun floor hfloor here => ?_⟩
    rw [uncheckedAnswers_follow n scope v reference hfloor, hfound]
    rfl
  | ok target =>
    right
    have heq : ∀ floor : Visit, floor.Steady → ∀ here,
        val.uncheckedAnswers n scope (.follow v reference) floor here =
          val.unchecked n v target (Reference.join scope (Reference.join scope reference)) floor
            (Reference.join scope reference :: here) := fun floor hfloor here => by
      rw [uncheckedAnswers_follow n scope v reference hfloor, hfound]
      rfl
    rcases unchecked_settles_or_sinks hfills n v target
      (Reference.join scope (Reference.join scope reference)) with ⟨r', hr'⟩ | hsinks
    · have hr : r = r' := h.eq fun floor hfloor here =>
        (heq floor hfloor here).trans (hr' floor hfloor _)
      exact ⟨target, rfl, hr ▸ hr'⟩
    · exact absurd (fun e he here => (heq _ (Floored.broken_steady he) here).trans
        (hsinks e he _)) h.not_sinks

end Validator

end ApiContract
