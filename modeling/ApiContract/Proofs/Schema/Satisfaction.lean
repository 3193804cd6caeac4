/-
# Satisfaction

What it means for a value to satisfy a schema, said without running a validation.  A schema
with a reference says what the target of the reference says; otherwise a null may be allowed
whatever else is said, and else all keywords of the schema make their demands.

A demand may refer to further schemas, and references may lead in a circle.  So satisfaction
is defined by recursion where the recursion comes to an end.  A validation that comes to a
good end has seen it come to an end, and it finds violations exactly if the value does not
satisfy the schema.
-/
import ApiContract.Proofs.Schema.Holds

namespace ApiContract

/-! ## Sites -/

/-- A schema in a scope, and the value that is held against it. -/
structure Site where
  /-- The scope the schema is read in. -/
  scope : String
  /-- The value. -/
  value : Value
  /-- The schema. -/
  schema : Value

/-- The sites that satisfaction at a site depends on. -/
inductive Below (store : Store) : Site → Site → Prop
  /-- The target of a reference, in the scope it leads to. -/
  | target {scope reference : String} {v target : Value} {fields : Fields} :
      fields.lookup Keyword.ref.name = some (.string reference) →
      store.resolveUrl (Reference.join (scopeInside scope fields) reference) = .ok target →
      Below store
        ⟨Reference.join (scopeInside scope fields)
          (Reference.join (scopeInside scope fields) reference), v, target⟩
        ⟨scope, v, .object fields⟩
  /-- What a keyword in force asks for. -/
  | asked {scope : String} {v value : Value} {fields : Fields} {k : Keyword} {a : Ask} :
      Keyword.InForce fields v k value → Keyword.Asks fields v value k a →
      Below store ⟨scopeInside scope fields, a.value, a.schema⟩ ⟨scope, v, .object fields⟩

namespace Validator

/-- What a schema demands of a value, given what satisfaction is at the sites below. -/
def Demands (val : Validator) (sat : Site → Prop) (site : Site) : Prop :=
  ∃ fields, site.schema = .object fields ∧
    match fields.lookup Keyword.ref.name with
    | some value => ∃ reference target, value = .string reference ∧
        val.store.resolveUrl (Reference.join (scopeInside site.scope fields) reference) =
          .ok target ∧
        sat ⟨Reference.join (scopeInside site.scope fields)
          (Reference.join (scopeInside site.scope fields) reference), site.value, target⟩
    | none =>
      (site.value = .null ∧ isNullable fields) ∨
        ∀ k value, fields.lookup k.name = some value →
          Keyword.Holds val.formats (fun w s => sat ⟨scopeInside site.scope fields, w, s⟩)
            fields site.value value k

/-- The value at a site satisfies the schema there: the recursion over the sites below comes
to an end, and the demands of the schema are met. -/
def Satisfies (val : Validator) (site : Site) : Prop :=
  ∃ h : Acc (Below val.store) site,
    Acc.rec (motive := fun _ _ => Prop)
      (fun site _ below => val.Demands (fun sub => ∃ h : Below val.store sub site, below sub h)
        site) h

lemma isNull_iff {v : Value} : v.isNull = true ↔ v = .null := by
  cases v <;> simp [Value.isNull]

/-- The demands at a site depend on satisfaction at the sites below only. -/
lemma Demands.of_iff {val : Validator} {sat sat' : Site → Prop} {site : Site}
    (hsat : ∀ sub, Below val.store sub site → (sat sub ↔ sat' sub))
    (h : val.Demands sat site) : val.Demands sat' site := by
  obtain ⟨scope, v, schema⟩ := site
  obtain ⟨fields, rfl, h⟩ := h
  refine ⟨fields, rfl, ?_⟩
  cases href : fields.lookup Keyword.ref.name with
  | some value =>
    rw [href] at h
    obtain ⟨reference, target, rfl, htarget, hs⟩ := h
    exact ⟨reference, target, rfl, htarget, (hsat _ (.target href htarget)).1 hs⟩
  | none =>
    rw [href] at h
    by_cases hnull : v.isNull ∧ isNullable fields
    · exact Or.inl ⟨isNull_iff.1 hnull.1, hnull.2⟩
    · rcases h with ⟨hv, hnullable⟩ | hall
      · exact absurd ⟨isNull_iff.2 hv, hnullable⟩ hnull
      · right
        intro k value hlookup
        refine (hall k value hlookup).of_iff fun a ha => ?_
        exact hsat _ (.asked ⟨hlookup, Or.inr ⟨href, hnull⟩⟩ ha)

/-- **The recursion of satisfaction**: where it comes to an end, a value satisfies a schema if
and only if the demands of the schema are met. -/
theorem satisfies_iff_demands (val : Validator) {site : Site}
    (h : Acc (Below val.store) site) :
    val.Satisfies site ↔ val.Demands val.Satisfies site := by
  cases h with
  | intro _ hbelow =>
    have hiff : ∀ sub, ∀ hsub : Below val.store sub site,
        (∃ h : Below val.store sub site, Acc.rec (motive := fun _ _ => Prop)
          (fun site _ below => val.Demands
            (fun sub => ∃ h : Below val.store sub site, below sub h) site) (hbelow sub h)) ↔
          val.Satisfies sub :=
      fun sub hsub => ⟨fun ⟨_, hs⟩ => ⟨hbelow sub hsub, hs⟩, fun ⟨_, hs⟩ => ⟨hsub, hs⟩⟩
    constructor
    · rintro ⟨⟨_, _⟩, hdemands⟩
      exact Demands.of_iff hiff hdemands
    · intro hdemands
      exact ⟨⟨_, hbelow⟩, Demands.of_iff (fun sub hsub => (hiff sub hsub).symm) hdemands⟩

/-! ## Validation decides satisfaction -/

/-- Visits decide satisfaction: one that comes to a good end has seen the recursion of
satisfaction come to an end, and it finds violations exactly if the value does not satisfy the
schema. -/
def Decides (val : Validator) (visit : Visit) : Prop :=
  ∀ scope here w s o, (visit w s).resultAt scope here = .ok o →
    Acc (Below val.store) ⟨scope, w, s⟩ ∧ (o.violations = [] ↔ val.Satisfies ⟨scope, w, s⟩)

section

variable {val : Validator} {visit : Visit} {scope : String} {here : List String} {v : Value}
  {fields : Fields} {o : Outcome}

lemma Settled.violations_eq_nil_iff {follow : Follow}
    (h : val.Settled follow visit scope here v fields o) :
    o.violations = [] ↔ ∀ k value c, Keyword.InForce fields v k value →
      (k.contribution val follow visit fields v value).resultAt scope here = .ok c →
      c.violations = [] := by
  simp only [List.eq_nil_iff_forall_not_mem, h.mem_iff]
  constructor
  · exact fun hnone k value c hk hc x hx => hnone _ ⟨k, value, c, hk, hc, x, hx, rfl⟩
  · rintro hall _ ⟨k, value, c, hk, hc, x, hx, rfl⟩
    exact hall k value c hk hc x hx

/-- What is in force decides which demands there are. -/
lemma demands_keywords_iff {sat : Site → Prop} (href : fields.lookup Keyword.ref.name = none) :
    val.Demands sat ⟨scope, v, .object fields⟩ ↔
      ∀ k value, Keyword.InForce fields v k value →
        k.Holds val.formats (fun w s => sat ⟨scopeInside scope fields, w, s⟩) fields v value := by
  constructor
  · rintro ⟨fields', ⟨⟩, hdemands⟩ k value ⟨hlookup, hforce⟩
    rw [href] at hdemands
    rcases hforce with rfl | ⟨-, hnot⟩
    · simp [href] at hlookup
    · rcases hdemands with ⟨rfl, hnullable⟩ | hall
      · exact absurd ⟨rfl, hnullable⟩ hnot
      · exact hall k value hlookup
  · intro hall
    refine ⟨fields, rfl, ?_⟩
    rw [href]
    by_cases hnull : v.isNull ∧ isNullable fields
    · exact Or.inl ⟨isNull_iff.1 hnull.1, hnull.2⟩
    · exact Or.inr fun k value hlookup => hall k value ⟨hlookup, Or.inr ⟨href, hnull⟩⟩

/-- A reference demands that its target is satisfied. -/
lemma demands_ref_iff {sat : Site → Prop} {reference : String} {target : Value}
    (href : fields.lookup Keyword.ref.name = some (.string reference))
    (htarget : val.store.resolveUrl (Reference.join (scopeInside scope fields) reference) =
      .ok target) :
    val.Demands sat ⟨scope, v, .object fields⟩ ↔
      sat ⟨Reference.join (scopeInside scope fields)
        (Reference.join (scopeInside scope fields) reference), v, target⟩ := by
  constructor
  · rintro ⟨fields', ⟨⟩, hdemands⟩
    rw [href] at hdemands
    obtain ⟨reference', target', ⟨⟩, htarget', hs⟩ := hdemands
    rwa [Except.ok.inj (htarget.symm.trans htarget')]
  · intro hs
    refine ⟨fields, rfl, ?_⟩
    rw [href]
    exact ⟨reference, target, rfl, htarget, hs⟩

variable (hvisit : visit.Steady) (hfills : val.fills = false)

include hvisit

/-- A reference in force that has come to a good end: its target has been visited, and the
violations are those of the target. -/
lemma Settled.target
    (h : val.Settled (Applicator.follow val.store visit) visit scope here v fields o)
    {value : Value} (href : fields.lookup Keyword.ref.name = some value) :
    ∃ reference target o', value = .string reference ∧
      val.store.resolveUrl (Reference.join scope reference) = .ok target ∧
      (visit v target).resultAt (Reference.join scope (Reference.join scope reference))
        (Reference.join scope reference :: here) = .ok o' ∧
      (o.violations = [] ↔ o'.violations = []) := by
  obtain ⟨c, hc⟩ := h.answered .ref value ⟨href, Or.inl rfl⟩
  obtain ⟨reference, o', rfl, ho', hco⟩ :=
    (Applicator.ref_ok_iff (Applicator.follow_steady val.store hvisit)).1 hc
  obtain ⟨target, htarget, -, hvisited⟩ := (Applicator.follow_ok_iff hvisit).1 ho'
  refine ⟨reference, target, o', rfl, htarget, hvisited, ?_⟩
  rw [h.violations_eq_nil_iff]
  constructor
  · intro hall
    have hnil := hall .ref _ c ⟨href, Or.inl rfl⟩ hc
    rwa [hco] at hnil
  · rintro hnil k value c' ⟨hlookup, rfl | ⟨hnone, -⟩⟩ hc'
    · obtain rfl := Option.some.inj (hlookup.symm.trans href)
      obtain rfl : c = c' := by simpa [hc] using hc'
      rwa [hco]
    · simp [href] at hnone

include hfills

/-- Everything below the site of a schema that has come to a good end has been visited. -/
lemma Settled.visited_below
    (h : val.Settled (Applicator.follow val.store visit) visit (scopeInside scope fields) here v
      fields o) {sub : Site} (hsub : Below val.store sub ⟨scope, v, .object fields⟩) :
    ∃ here' o', (visit sub.value sub.schema).resultAt sub.scope here' = .ok o' := by
  cases hsub with
  | target hlookup htarget =>
    obtain ⟨reference, target, o', ⟨⟩, htarget', hvisited, -⟩ := h.target hvisit hlookup
    obtain rfl := Except.ok.inj (htarget.symm.trans htarget')
    exact ⟨_, o', hvisited⟩
  | asked hforce hask =>
    obtain ⟨c, hc⟩ := h.answered _ _ hforce
    obtain ⟨o', ho'⟩ := Keyword.contribution_answered hvisit hfills hc hask
    obtain ⟨o'', hvisited, -⟩ := Visit.answer_eq_ok_iff.1 ho'
    exact ⟨_, o'', hvisited⟩

lemma Settled.acc (hsat : val.Decides visit)
    (h : val.Settled (Applicator.follow val.store visit) visit (scopeInside scope fields) here v
      fields o) :
    Acc (Below val.store) ⟨scope, v, .object fields⟩ := by
  refine Acc.intro _ fun sub hsub => ?_
  obtain ⟨here', o', hvisited⟩ := h.visited_below hvisit hfills hsub
  exact (hsat _ _ _ _ _ hvisited).1

/-- A keyword decides its demand if visits decide satisfaction. -/
lemma Decides.keyword (hsat : val.Decides visit) {follow : Follow} {k : Keyword} {value : Value}
    {c : Contribution} (hk : k ≠ .ref)
    (hc : (k.contribution val follow visit fields v value).resultAt scope here = .ok c) :
    c.violations = [] ↔
      k.Holds val.formats (fun w s => val.Satisfies ⟨scope, w, s⟩) fields v value := by
  refine Keyword.contribution_holds hvisit hfills hk (fun a o _ ho => ?_) hc
  obtain ⟨o', hvisited, rfl⟩ := Visit.answer_eq_ok_iff.1 ho
  rw [Outcome.violations_under_eq_nil_iff]
  exact (hsat _ _ _ _ _ hvisited).2

/-- One step of the recursion: if visits decide satisfaction, then so does a schema whose
visits they are. -/
lemma Settled.satisfies (hsat : val.Decides visit)
    (h : val.Settled (Applicator.follow val.store visit) visit (scopeInside scope fields) here v
      fields o) :
    o.violations = [] ↔ val.Satisfies ⟨scope, v, .object fields⟩ := by
  rw [satisfies_iff_demands val (h.acc hvisit hfills hsat)]
  cases href : fields.lookup Keyword.ref.name with
  | some value =>
    obtain ⟨reference, target, o', rfl, htarget, hvisited, hiff⟩ := h.target hvisit href
    rw [hiff, (hsat _ _ _ _ _ hvisited).2, demands_ref_iff href htarget]
  | none =>
    have hne : ∀ {k value}, Keyword.InForce fields v k value → k ≠ .ref := by
      rintro k value hforce rfl
      simpa [href] using hforce.1
    rw [h.violations_eq_nil_iff, demands_keywords_iff href]
    constructor
    · intro hall k value hforce
      obtain ⟨c, hc⟩ := h.answered k value hforce
      exact (hsat.keyword hvisit hfills (hne hforce) hc).1 (hall k value c hforce hc)
    · intro hall k value c hforce hc
      exact (hsat.keyword hvisit hfills (hne hforce) hc).2 (hall k value hforce)

end

/-- Visits decide satisfaction, however deep they may go. -/
lemma visit_decides (val : Validator) (hfills : val.fills = false) (n : Nat) :
    val.Decides (val.visit n) := by
  induction n with
  | zero => exact fun scope here v schema o h => absurd h visit_zero_ne_ok
  | succ n ih =>
    intro scope here v schema o h
    have hsteady := val.visit_steady n
    obtain ⟨fields, rfl, hsettled⟩ :=
      visitNode_settled (Applicator.follow_steady val.store hsteady) hsteady h
    exact ⟨hsettled.acc hsteady hfills ih, hsettled.satisfies hsteady hfills ih⟩

/-- **Validation decides satisfaction**: whenever the violations of a schema by a value are
found, with missing properties not filled, the recursion of satisfaction comes to an end, and
there are no violations if and only if the value satisfies the schema. -/
theorem violationsOf_eq_nil_iff_satisfies (val : Validator) (hfills : val.fills = false)
    (v schema : Value) (vs : List Violation) (h : val.violationsOf v schema = .ok vs) :
    Acc (Below val.store) ⟨val.store.baseUri, v, schema⟩ ∧
      (vs = [] ↔ val.Satisfies ⟨val.store.baseUri, v, schema⟩) := by
  obtain ⟨o, ho, rfl⟩ := violationsOf_eq_ok_iff.1 h
  exact val.visit_decides hfills _ _ _ _ _ _ ho

end Validator

/-! ## Linked lists -/

namespace Linked

/-- The schema of a node: it holds a value, and there may be a next node. -/
def node : Value := .object [
  ("type", .string "object"),
  ("required", .array [.string "value"]),
  ("properties", .object [("next", .object [("$ref", .string "#/definitions/node")])])]

/-- A document that defines nodes. -/
def document : Value := .object [("definitions", .object [("node", node)])]

/-- A validator for this document alone. -/
def validator : Validator := ⟨.ofRoot "" document, .oas3, false⟩

/-- The schema that refers to the definition. -/
def schema : Value := .object [("$ref", .string "#/definitions/node")]

/-- A list of two nodes. -/
def pair : Value :=
  .object [("value", .integer 1), ("next", .object [("value", .integer 2)])]

/-- A list whose second node holds no value. -/
def broken : Value := .object [("value", .integer 1), ("next", .object [])]

end Linked

/-- A list of two nodes satisfies the schema of lists, one with a hollow node does not. -/
theorem pair_satisfies_and_broken_does_not :
    Linked.validator.fills = false ∧
      Linked.validator.violationsOf Linked.pair Linked.schema = .ok [] ∧
      Linked.validator.Satisfies ⟨"", Linked.pair, Linked.schema⟩ ∧
      ¬ Linked.validator.Satisfies ⟨"", Linked.broken, Linked.schema⟩ := by
  refine ⟨rfl, rfl, ?_, ?_⟩
  · exact (Linked.validator.violationsOf_eq_nil_iff_satisfies rfl _ _ [] rfl).2.1 rfl
  · have h := Linked.validator.violationsOf_eq_nil_iff_satisfies rfl Linked.broken Linked.schema
      _ rfl
    exact fun hs => absurd (h.2.2 hs) (List.cons_ne_nil _ _)

end ApiContract
