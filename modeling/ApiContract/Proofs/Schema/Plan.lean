/-
# Plans

While missing properties are not filled, a schema looks at a value in a way that depends on
visits and references through their outcomes alone.  So it follows a plan: it asks for a
visit or for what a reference leads to, goes on with the outcome, and comes to its result.
The plan does not depend on the scope, on the references being followed, or on how visits are
made; these decide the answers only.

Whatever holds of all answers and of results that need none therefore holds of schemas, by
one induction on plans.
-/
import ApiContract.Proofs.Schema.Accounts

namespace ApiContract

/-! ## Questions and plans -/

/-- What a schema may ask for on its way. -/
inductive Question where
  /-- A visit. -/
  | visit (a : Ask)
  /-- What a reference leads to. -/
  | follow (v : Value) (reference : String)

/-- What visits and references make of a question in a scope. -/
def Question.answer (follow : Follow) (visit : Visit) (scope : String) (here : List String) :
    Question → Except SchemaError Outcome
  | .visit a => visit.answer scope here a
  | .follow v reference => (follow v reference).resultAt scope here

/-- A plan: questions, each of which leads on by its outcome, and results. -/
inductive Plan (α : Type) where
  /-- A result that needs no further question. -/
  | done (result : Except SchemaError α)
  /-- A question and what follows from its outcome. -/
  | ask (q : Question) (next : Outcome → Plan α)

namespace Plan

variable {α β : Type} {asks : Question → Prop} {answer : Question → Except SchemaError Outcome}

/-- The result of a plan, given the answers. -/
def run (answer : Question → Except SchemaError Outcome) : Plan α → Except SchemaError α
  | done result => result
  | ask q next => answer q >>= fun o => (next o).run answer

/-- A plan that goes on with the result of another one. -/
def bind : Plan α → (α → Plan β) → Plan β
  | done (.ok a), f => f a
  | done (.error e), _ => done (.error e)
  | ask q next, f => ask q fun o => (next o).bind f

/-- A plan whose questions are among some and which raises no error of circular references
by itself. -/
inductive Within (asks : Question → Prop) : Plan α → Prop
  | ok (a : α) : Within asks (done (.ok a))
  | error {e : SchemaError} : (∀ url, e ≠ .referenceCycle url) → Within asks (done (.error e))
  | ask {q : Question} {next : Outcome → Plan α} :
      asks q → (∀ o, Within asks (next o)) → Within asks (ask q next)

lemma run_bind (plan : Plan α) (f : α → Plan β) :
    (plan.bind f).run answer = plan.run answer >>= fun a => (f a).run answer := by
  induction plan with
  | done result => cases result <;> rfl
  | ask q next ih =>
    simp only [bind, run, ih]
    cases answer q <;> rfl

lemma Within.bind {plan : Plan α} {f : α → Plan β} (hplan : plan.Within asks)
    (hf : ∀ a, (f a).Within asks) : (plan.bind f).Within asks := by
  induction hplan with
  | ok a => exact hf a
  | error he => exact .error he
  | ask hq _ ih => exact .ask hq ih

lemma Within.mono {asks' : Question → Prop} {plan : Plan α} (h : plan.Within asks)
    (hmono : ∀ q, asks q → asks' q) : plan.Within asks' := by
  induction h with
  | ok a => exact .ok a
  | error he => exact .error he
  | ask hq _ ih => exact .ask (hmono _ hq) ih

/-! ## What answers decide -/

/-- Equal answers lead to equal results. -/
lemma Within.run_congr {plan : Plan α} (h : plan.Within asks)
    {answer' : Question → Except SchemaError Outcome}
    (heq : ∀ q, asks q → answer q = answer' q) : plan.run answer = plan.run answer' := by
  induction h with
  | ok | error => rfl
  | ask hq _ ih =>
    simp only [run, heq _ hq]
    congr 1
    funext o
    exact ih o

/-- A good end is kept as long as the good ends of the answers are. -/
lemma Within.run_of_ok {plan : Plan α} (h : plan.Within asks)
    {answer' : Question → Except SchemaError Outcome}
    (hkeep : ∀ q o, asks q → answer q = .ok o → answer' q = .ok o) {a : α}
    (hrun : plan.run answer = .ok a) : plan.run answer' = .ok a := by
  induction h with
  | ok | error => exact hrun
  | ask hq _ ih =>
    obtain ⟨o, ho, hnext⟩ := Except.bind_eq_ok_iff.1 hrun
    exact Except.bind_eq_ok_iff.2 ⟨o, hkeep _ o hq ho, ih o hnext⟩

/-- No error of circular references comes about unless an answer raises it. -/
lemma Within.run_ne_cycle {plan : Plan α} (h : plan.Within asks)
    (hanswer : ∀ q, asks q → ∀ url, answer q ≠ .error (.referenceCycle url)) (url : String) :
    plan.run answer ≠ .error (.referenceCycle url) := by
  induction h with
  | ok => simp [run]
  | error he => simpa [run] using he url
  | @ask q next hq _ ih =>
    rcases ho : answer q with e | o
    · have hne := hanswer q hq url
      rw [ho] at hne
      simpa [run, ho, Bind.bind, Except.bind] using hne
    · simpa [run, ho, Bind.bind, Except.bind] using ih o

end Plan

/-! ## Walks that follow a plan -/

/-- How references are followed and how visits are made, all of it by steady walks. -/
structure Steadies (follow : Follow) (visit : Visit) : Prop where
  /-- References are followed by steady walks. -/
  follow : follow.Steady
  /-- Visits are steady walks. -/
  visit : visit.Steady

lemma Validator.visit_steadies (val : Validator) (n : Nat) :
    Steadies (Applicator.follow val.store (val.visit n)) (val.visit n) :=
  ⟨Applicator.follow_steady val.store (val.visit_steady n), val.visit_steady n⟩

/-- A walk that follows a plan with questions among some. -/
structure Planned {α : Type} (asks : Question → Prop)
    (walk : Follow → Visit → Walk SchemaError α) : Prop where
  /-- The walk is steady. -/
  steady : ∀ {follow visit}, Steadies follow visit → (walk follow visit).Steady
  /-- There is a plan, and its result is the result of the walk. -/
  plan : ∃ plan : Plan α, plan.Within asks ∧ ∀ {follow visit}, Steadies follow visit →
    ∀ scope here, (walk follow visit).resultAt scope here =
      plan.run (Question.answer follow visit scope here)

namespace Planned

variable {α β : Type} {asks : Question → Prop}

lemma pure (a : α) : Planned asks fun _ _ => Pure.pure a :=
  ⟨fun _ => .pure a, .done (.ok a), .ok a, fun _ _ _ => rfl⟩

lemma broken {e : SchemaError} (h : e ≠ .scopeUnderflow) (hcycle : ∀ url, e ≠ .referenceCycle url) :
    Planned asks fun _ _ => (Walk.broken e : Walk SchemaError α) :=
  ⟨fun _ => .broken h, .done (.error e), .error hcycle, fun _ _ _ => rfl⟩

lemma malformed (k : Keyword) (expected : String) :
    Planned asks fun _ _ =>
      (Walk.broken (Constraint.malformed k expected) : Walk SchemaError α) :=
  broken (by simp [Constraint.malformed]) (by simp [Constraint.malformed])

lemma ofExcept {r : Except SchemaError α} (h : Constraint.Inherent r) :
    Planned asks fun _ _ => Walk.ofExcept r := by
  cases r with
  | ok a => exact pure a
  | error e =>
    exact broken (fun he => h.1 (by rw [he])) fun url he => h.2 url (by rw [he])

lemma bind {x : Follow → Visit → Walk SchemaError α}
    {f : α → Follow → Visit → Walk SchemaError β} (hx : Planned asks x)
    (hf : ∀ a, Planned asks (f a)) :
    Planned asks fun follow visit => x follow visit >>= fun a => f a follow visit := by
  obtain ⟨plan, hwithin, hplan⟩ := hx.plan
  choose next hnext hrun using fun a => (hf a).plan
  refine ⟨fun h => (hx.steady h).bind fun a => (hf a).steady h, plan.bind next,
    hwithin.bind hnext, fun h scope here => ?_⟩
  rw [Walk.resultAt_bind (hx.steady h) fun a => (hf a).steady h, Plan.run_bind, hplan h]
  congr 1
  funext a
  exact hrun a h scope here

lemma map {x : Follow → Visit → Walk SchemaError α} (hx : Planned asks x) (g : α → β) :
    Planned asks fun follow visit => g <$> x follow visit := by
  simp only [map_eq_pure_bind]
  exact hx.bind fun a => pure (g a)

lemma mapM {γ : Type} {l : List γ} {f : γ → Follow → Visit → Walk SchemaError β}
    (hf : ∀ c ∈ l, Planned asks (f c)) :
    Planned asks fun follow visit => l.mapM fun c => f c follow visit := by
  induction l with
  | nil => exact pure []
  | cons c l ih =>
    simp only [List.mapM_cons]
    refine (hf c (by simp)).bind fun b => ?_
    exact (ih fun c hc => hf c (by simp [hc])).bind fun bs => pure (b :: bs)

/-- A walk whose result is the same in every scope needs no question; what follows has to
be planned for this result only. -/
lemma const_bind {x : Walk SchemaError α} {r : Except SchemaError α}
    {f : α → Follow → Visit → Walk SchemaError β} (hx : x.Steady) (hr : Constraint.Inherent r)
    (hresult : ∀ scope here, x.resultAt scope here = r)
    (hsteady : ∀ {follow visit}, Steadies follow visit → ∀ a, (f a follow visit).Steady)
    (hf : ∀ a, r = .ok a → Planned asks (f a)) :
    Planned asks fun follow visit => x >>= fun a => f a follow visit := by
  refine ⟨fun h => hx.bind (hsteady h), ?_⟩
  cases r with
  | ok a =>
    obtain ⟨plan, hwithin, hplan⟩ := (hf a rfl).plan
    refine ⟨plan, hwithin, fun h scope here => ?_⟩
    rw [Walk.resultAt_bind hx (hsteady h), hresult, ← hplan h]
    rfl
  | error e =>
    refine ⟨.done (.error e), .error fun url he => hr.2 url (by rw [he]), fun h scope here => ?_⟩
    rw [Walk.resultAt_bind hx (hsteady h), hresult]
    rfl

lemma pattern_bind {source : String} {f : Regex → Follow → Visit → Walk SchemaError β}
    (hsteady : ∀ {follow visit}, Steadies follow visit → ∀ a, (f a follow visit).Steady)
    (hf : ∀ regex, Regex.ofText? source = some regex → Planned asks (f regex)) :
    Planned asks fun follow visit => Walk.pattern source >>= fun a => f a follow visit := by
  refine const_bind (.pattern source) ?_ (fun _ _ => Walk.resultAt_pattern source) hsteady
    fun regex hregex => hf regex ?_
  · split
    · exact .ok _
    · exact .error (by simp) (by simp)
  · exact (Walk.pattern_ok_iff source).1 ((@Walk.resultAt_pattern "" [] source).trans hregex)

/-- A visit of the value at hand. -/
lemma visit {a : Ask} (ha : asks (.visit a)) (hpath : a.path = []) :
    Planned asks fun _ visit => (·.under [] a.schemaPath) <$> visit a.value a.schema := by
  refine ⟨fun h => (h.visit _ _).map _, .ask (.visit a) fun o => .done (.ok o),
    .ask ha fun o => .ok o, fun {_ visit} h scope here => ?_⟩
  have hanswer : visit.answer scope here a =
      ((·.under [] a.schemaPath) <$> visit a.value a.schema : Walk _ _).resultAt scope here := by
    rw [Walk.resultAt_map (h.visit _ _), Visit.answer, hpath, if_pos rfl]
  rw [← hanswer, Plan.run, Question.answer]
  cases visit.answer scope here a <;> rfl

/-- A visit of the value at hand and what follows from its outcome. -/
lemma visit_bind {a : Ask} {f : Outcome → Follow → Visit → Walk SchemaError β}
    (ha : asks (.visit a)) (hpath : a.path = []) (hf : ∀ o, Planned asks (f o)) :
    Planned asks fun follow visit =>
      visit a.value a.schema >>= fun o => f (o.under [] a.schemaPath) follow visit := by
  have h := (visit ha hpath).bind hf
  simpa only [bind_map_left] using h

/-- A visit of a part of the value. -/
lemma child {κ : Type} {place : κ} {w s : Value} {path schemaPath : List PathStep}
    (ha : asks (.visit ⟨path, schemaPath, w, s⟩)) (hpath : path ≠ []) :
    Planned asks fun _ visit => Applicator.child visit place w s path schemaPath := by
  refine ⟨fun h => Applicator.child_steady h.visit _ _ _ _ _,
    .ask (.visit ⟨path, schemaPath, w, s⟩) fun o => .done (.ok ⟨place, o⟩),
    .ask ha fun o => .ok _, fun {_ visit} h scope here => ?_⟩
  rw [Applicator.child, Walk.resultAt_bind (h.visit w s).onChild fun _ => Walk.Steady.pure _,
    Walk.resultAt_onChild (h.visit w s), Plan.run, Question.answer, Visit.answer, if_neg hpath]
  cases (visit w s).resultAt scope [] <;> rfl

/-- What a reference leads to. -/
lemma follow {v : Value} {reference : String} (ha : asks (.follow v reference)) :
    Planned asks fun follow _ => follow v reference := by
  refine ⟨fun h => h.follow v reference, .ask (.follow v reference) fun o => .done (.ok o),
    .ask ha fun o => .ok o, fun {follow _} h scope here => ?_⟩
  rw [Plan.run, Question.answer]
  cases (follow v reference).resultAt scope here <;> rfl

end Planned

/-! ## Keywords -/

/-- The questions that a keyword puts. -/
inductive Keyword.Puts (schema : Fields) (v value : Value) (k : Keyword) : Question → Prop
  | visit {a : Ask} : Asks schema v value k a → Puts schema v value k (.visit a)
  | follow {reference : String} :
      k = .ref → value = .string reference → Puts schema v value k (.follow v reference)

namespace Applicator

variable {val : Validator} (schema : Fields) (v value : Value)

lemma constraint_planned {asks : Question → Prop} {messages : Constraint.Messages}
    (h : Constraint.Inherent messages) : Planned asks fun _ _ => constraint messages :=
  (Planned.ofExcept h).bind fun _ => Planned.pure _

lemma ref_planned :
    Planned (Keyword.Puts schema v value .ref) fun follow _ => ref follow v value := by
  unfold ref
  split
  · exact (Planned.follow (.follow rfl rfl)).map _
  · exact Planned.malformed _ _

lemma property_planned (hfills : val.fills = false) {fields declared : Fields}
    {field : String × Value} (hmem : field ∈ declared) :
    Planned (Keyword.Puts schema (.object fields) (.object declared) .properties)
      fun _ visit => property val visit fields field.1 field.2 := by
  unfold property
  split
  · rename_i w hw
    exact Planned.child (.visit (.property hmem hw)) (by simp)
  · have hdefault : val.declaredDefault field.2 = pure none := by
      simp [Validator.declaredDefault, hfills]
    simp only [hdefault]
    exact Planned.pure _

lemma properties_planned (hfills : val.fills = false) :
    Planned (Keyword.Puts schema v value .properties)
      fun _ visit => properties val visit v value := by
  unfold properties
  split
  · split
    · refine (Planned.mapM fun field hmem => ?_).bind fun _ => Planned.pure _
      exact property_planned schema hfills hmem
    · exact Planned.pure _
  · exact Planned.malformed _ _

lemma matchingFields_planned {fields patterns : Fields} {entry : String × Value}
    (hmem : entry ∈ patterns) :
    Planned (Keyword.Puts schema (.object fields) (.object patterns) .patternProperties)
      fun _ visit => matchingFields visit fields entry.1 entry.2 := by
  unfold matchingFields
  refine Planned.pattern_bind (fun h _ => Walk.Steady.mapM fun _ _ =>
    child_steady h.visit _ _ _ _ _) fun regex hregex => ?_
  refine Planned.mapM fun field hfield => ?_
  obtain ⟨hfield, hmatch⟩ := List.mem_filter.1 hfield
  exact Planned.child (.visit (.matching hmem hregex hfield hmatch)) (by simp)

lemma patternProperties_planned :
    Planned (Keyword.Puts schema v value .patternProperties)
      fun _ visit => patternProperties visit v value := by
  unfold patternProperties
  split
  · split
    · refine (Planned.mapM fun entry hmem => ?_).bind fun _ => Planned.pure _
      exact matchingFields_planned schema hmem
    · exact Planned.pure _
  · exact Planned.malformed _ _

lemma extraFields_result (fields schema : Fields) :
    Constraint.Inherent ((extraFields fields schema).resultAt "" []) ∧
      ∀ scope here, (extraFields fields schema).resultAt scope here =
        (extraFields fields schema).resultAt "" [] := by
  rw [extraFields]
  split
  · exact ⟨.ok _, fun _ _ => rfl⟩
  · simp only [Walk.resultAt_bind (Walk.Steady.pattern _) fun _ => Walk.Steady.pure _,
      Walk.resultAt_pattern]
    refine ⟨Constraint.Inherent.bind ?_ fun _ => .ok _, fun _ _ => rfl⟩
    split
    · exact .ok _
    · exact .error (by simp) (by simp)

lemma additionalProperties_planned :
    Planned (Keyword.Puts schema v value .additionalProperties)
      fun _ visit => additionalProperties visit schema v value := by
  unfold additionalProperties
  split
  · exact Planned.malformed _ _
  · split
    · rename_i fields
      obtain ⟨hr, hresult⟩ := extraFields_result fields schema
      split
      · refine Planned.const_bind (extraFields_steady _ _) hr hresult (fun h _ =>
          (Walk.Steady.mapM fun _ _ => child_steady h.visit _ _ _ _ _).bind fun _ =>
            Walk.Steady.pure _) fun extras hextras => ?_
        refine (Planned.mapM fun field hmem => ?_).bind fun _ => Planned.pure _
        obtain ⟨hfield, hextra⟩ := (extraFields_ok hextras).1 hmem
        exact Planned.child (.visit (.extra hfield hextra)) (by simp)
      · refine Planned.const_bind (extraFields_steady _ _) hr hresult (fun _ extras => ?_)
          fun extras _ => ?_
        · split <;> exact Walk.Steady.pure _
        · split <;> exact Planned.pure _
      · exact Planned.const_bind (extraFields_steady _ _) hr hresult
          (fun _ _ => Walk.Steady.pure _) fun _ _ => Planned.pure _
    · exact Planned.pure _

lemma itemParts_planned {asks : Question → Prop} {schemaPath : Nat → List PathStep}
    {pairs : List (Value × Value)} {start : Nat}
    (hasks : ∀ pair ∈ pairs.zipIdx start,
      asks (.visit ⟨[.index pair.2], schemaPath pair.2, pair.1.1, pair.1.2⟩)) :
    Planned asks fun _ visit => itemParts visit start schemaPath pairs := by
  induction pairs generalizing start with
  | nil => exact Planned.pure _
  | cons pair pairs ih =>
    refine (Planned.child (hasks (pair, start) (by simp)) (by simp)).bind fun _ => ?_
    refine (ih fun pair hpair => hasks pair ?_).bind fun _ => Planned.pure _
    rw [List.zipIdx_cons]
    exact List.mem_cons_of_mem _ hpair

lemma items_planned :
    Planned (Keyword.Puts schema v value .items) fun _ visit => items visit v value := by
  unfold items
  split
  · exact Planned.malformed _ _
  · split
    · split
      · refine (itemParts_planned fun ⟨⟨w, s⟩, i⟩ hmem => ?_).bind fun _ => Planned.pure _
        obtain ⟨hw, hs⟩ := mem_tuple_iff.1 hmem
        exact .visit (.tuple hw hs)
      · rename_i harray
        refine (itemParts_planned fun ⟨⟨w, s⟩, i⟩ hmem => ?_).bind fun _ => Planned.pure _
        obtain ⟨hw, rfl⟩ := mem_items_iff.1 hmem
        exact .visit (.item (Value.array?_eq_none_iff.2 harray) hw)
    · exact Planned.pure _

lemma additionalItems_planned :
    Planned (Keyword.Puts schema v value .additionalItems)
      fun _ visit => additionalItems visit schema v value := by
  unfold additionalItems
  split
  · exact Planned.malformed _ _
  · split
    · rename_i vs schemas hv hschemas
      obtain rfl := Value.array?_eq_some_iff.1 hv
      dsimp only
      split
      · refine (itemParts_planned fun ⟨⟨w, s⟩, i⟩ hmem => ?_).bind fun _ => Planned.pure _
        obtain ⟨hle, hw, rfl⟩ := mem_later_iff.1 hmem
        exact .visit (.laterItem hschemas hle hw)
      · split <;> exact Planned.pure _
      · exact Planned.pure _
    · exact Planned.pure _

lemma branches_planned {k : Keyword} (hk : k = .allOf ∨ k = .anyOf ∨ k = .oneOf) :
    Planned (Keyword.Puts schema v value k) fun _ visit => branches visit k v value := by
  unfold branches
  split
  · refine Planned.mapM fun branch hmem => ?_
    have hask : Keyword.Puts schema v (.array _) k
        (.visit ⟨[], [.index branch.2], v, branch.1⟩) :=
      .visit (.branch hk (List.mem_zipIdx_iff_getElem?.1 hmem))
    exact Planned.visit_bind (f := fun o _ _ => pure (branch.2, o)) hask rfl fun o =>
      Planned.pure _
  · exact Planned.malformed _ _

lemma allOf_planned :
    Planned (Keyword.Puts schema v value .allOf) fun _ visit => allOf visit v value := by
  refine (branches_planned schema v value (by simp)).bind fun outcomes => ?_
  split <;> exact Planned.pure _

lemma anyOf_planned :
    Planned (Keyword.Puts schema v value .anyOf) fun _ visit => anyOf visit v value := by
  refine (branches_planned schema v value (by simp)).bind fun outcomes => ?_
  split <;> exact Planned.pure _

lemma oneOf_planned :
    Planned (Keyword.Puts schema v value .oneOf) fun _ visit => oneOf visit v value := by
  refine (branches_planned schema v value (by simp)).bind fun outcomes => ?_
  split <;> exact Planned.pure _

lemma not_planned :
    Planned (Keyword.Puts schema v value .not) fun _ visit => not visit v value := by
  have hask : Keyword.Puts schema v value .not (.visit ⟨[], [], v, value⟩) := .visit .not
  have h := Planned.visit_bind (β := Contribution) (f := fun o _ _ =>
    if o.violations.isEmpty then
      pure (.ofMessage s!"{value.text} is not allowed for {v.text}")
    else pure .nothing) hask rfl fun o => by
      split <;> exact Planned.pure _
  simp only [Outcome.under_nil] at h
  exact h

lemma pattern_planned {asks : Question → Prop} :
    Planned asks fun _ _ => pattern v value := by
  unfold pattern
  split
  · split
    · refine Planned.pattern_bind (fun _ regex => ?_) fun regex _ => ?_
      · split <;> exact Walk.Steady.pure _
      · split <;> exact Planned.pure _
    · exact Planned.pure _
  · exact Planned.malformed _ _

lemma format_planned {asks : Question → Prop} :
    Planned asks fun _ _ => format val v value := by
  unfold format
  split
  · split <;> exact Planned.pure _
  · exact Planned.malformed _ _

end Applicator

lemma Keyword.contribution_planned {val : Validator} (hfills : val.fills = false)
    (schema : Fields) (k : Keyword) (v value : Value) :
    Planned (k.Puts schema v value) fun follow visit =>
      k.contribution val follow visit schema v value := by
  cases k with
  | ref => exact Applicator.ref_planned schema v value
  | type => exact Applicator.constraint_planned (.type v value)
  | enum => exact Applicator.constraint_planned (.enum v value)
  | minLength => exact Applicator.constraint_planned (.atLeast _ _ value _)
  | maxLength => exact Applicator.constraint_planned (.atMost _ _ value _)
  | pattern => exact Applicator.pattern_planned v value
  | minimum => exact Applicator.constraint_planned (.minimum schema v value)
  | maximum => exact Applicator.constraint_planned (.maximum schema v value)
  | multipleOf => exact Applicator.constraint_planned (.multipleOf v value)
  | properties => exact Applicator.properties_planned schema v value hfills
  | patternProperties => exact Applicator.patternProperties_planned schema v value
  | additionalProperties => exact Applicator.additionalProperties_planned schema v value
  | required => exact Applicator.constraint_planned (.required v value)
  | minProperties => exact Applicator.constraint_planned (.atLeast _ _ value _)
  | maxProperties => exact Applicator.constraint_planned (.atMost _ _ value _)
  | dependencies => exact Planned.broken (by simp) (by simp)
  | items => exact Applicator.items_planned schema v value
  | additionalItems => exact Applicator.additionalItems_planned schema v value
  | minItems => exact Applicator.constraint_planned (.atLeast _ _ value _)
  | maxItems => exact Applicator.constraint_planned (.atMost _ _ value _)
  | uniqueItems => exact Applicator.constraint_planned (.uniqueItems v value)
  | allOf => exact Applicator.allOf_planned schema v value
  | anyOf => exact Applicator.anyOf_planned schema v value
  | oneOf => exact Applicator.oneOf_planned schema v value
  | not => exact Applicator.not_planned schema v value
  | format => exact Applicator.format_planned v value

/-! ## Schemas -/

/-- The questions that a schema puts: those of its keywords in force. -/
def Validator.Puts (fields : Fields) (v : Value) (q : Question) : Prop :=
  ∃ k value, Keyword.InForce fields v k value ∧ k.Puts fields v value q

lemma Planned.mono {α : Type} {asks asks' : Question → Prop}
    {walk : Follow → Visit → Walk SchemaError α} (h : Planned asks walk)
    (hmono : ∀ q, asks q → asks' q) : Planned asks' walk := by
  obtain ⟨plan, hwithin, hplan⟩ := h.plan
  exact ⟨h.steady, plan, hwithin.mono hmono, hplan⟩

namespace Validator

variable {val : Validator}

lemma visitKeyword_planned (hfills : val.fills = false) {v : Value} {fields : Fields}
    {k : Keyword} {value : Value} (hforce : Keyword.InForce fields v k value) :
    Planned (Puts fields v) fun follow visit =>
      val.visitKeyword follow visit v fields k value :=
  ((Keyword.contribution_planned hfills fields k v value).mono
    fun _ hq => ⟨k, value, hforce, hq⟩).bind fun _ => Planned.pure _

lemma visitFields_planned (hfills : val.fills = false) (v : Value) (fields : Fields) :
    Planned (Puts fields v) fun follow visit => val.visitFields follow visit v fields := by
  unfold visitFields
  split
  · rename_i href
    exact visitKeyword_planned hfills ⟨href, Or.inl rfl⟩
  · rename_i href
    split
    · exact Planned.pure _
    · rename_i hnull
      rw [Bool.and_eq_true] at hnull
      refine (Planned.mapM fun keyword hmem => ?_).bind fun _ => Planned.pure _
      exact (visitKeyword_planned hfills
        ⟨Keyword.mem_keywordsOf.1 hmem, Or.inr ⟨href, hnull⟩⟩).bind fun _ => Planned.pure _

/-- What a schema makes of a value is what its plan makes of the answers in the scope inside
the schema. -/
lemma visitNode_planned (hfills : val.fills = false) (v : Value) (fields : Fields) :
    ∃ plan : Plan Outcome, plan.Within (Puts fields v) ∧
      ∀ {follow visit}, Steadies follow visit → ∀ scope here,
        (val.visitNode follow visit v (.object fields)).resultAt scope here =
          plan.run (Question.answer follow visit (scopeInside scope fields) here) := by
  obtain ⟨plan, hwithin, hplan⟩ := (visitFields_planned hfills v fields).plan
  refine ⟨plan, hwithin, fun {follow visit} h scope here => ?_⟩
  rw [← hplan h]
  unfold visitNode
  dsimp only
  split
  · rename_i uri hid
    rw [Walk.resultAt_inScope (val.visitFields_steady h.follow h.visit v fields)]
    simp [scopeInside, hid]
  · rename_i hid
    simp [scopeInside, hid]

/-- A schema keeps its good end as long as the questions it puts do. -/
lemma visitNode_of_ok (hfills : val.fills = false) {v schema : Value} {follow follow' : Follow}
    {visit visit' : Visit} {scope : String} {here here' : List String} {o : Outcome}
    (h : Steadies follow visit) (h' : Steadies follow' visit')
    (hkeep : ∀ scope q o, Question.answer follow visit scope here q = .ok o →
      Question.answer follow' visit' scope here' q = .ok o)
    (hok : (val.visitNode follow visit v schema).resultAt scope here = .ok o) :
    (val.visitNode follow' visit' v schema).resultAt scope here' = .ok o := by
  obtain ⟨fields, rfl, -⟩ := visitNode_settled h.follow h.visit hok
  obtain ⟨plan, hwithin, hplan⟩ := visitNode_planned hfills v fields
  rw [hplan h] at hok
  rw [hplan h']
  exact hwithin.run_of_ok (fun q o _ => hkeep _ q o) hok

end Validator

end ApiContract
