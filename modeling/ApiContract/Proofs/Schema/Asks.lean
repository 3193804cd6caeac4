/-
# What keywords ask for

A keyword that applies schemas asks for visits: of the value itself, or of parts of it,
against schemas inside its own value.  What it asks for can be said without running it, and
the paths that lead there can be said along with it.

If a keyword comes to a good end, then all visits it has asked for have done so.  Most
keywords just gather their violations, beside violations of their own; `Accounts` says so.
The keywords `anyOf`, `oneOf` and `not` weigh them instead.
-/
import ApiContract.Proofs.Walk.Result
import ApiContract.Schema.Validate

namespace ApiContract

/-! ## Asks -/

/-- A visit that a keyword asks for. -/
structure Ask where
  /-- The path from the value of the keyword's schema to the value that is visited. -/
  path : List PathStep
  /-- The path from the keyword to the schema that is visited. -/
  schemaPath : List PathStep
  /-- The value that is visited. -/
  value : Value
  /-- The schema it is visited against. -/
  schema : Value

/-- A name that `additionalProperties` concerns: it is not declared, and the patterns beside
the keyword, taken together as alternatives, do not match it. -/
def IsExtra (schema : Fields) (name : String) : Prop :=
  name ∉ Applicator.declaredNames schema ∧
    (Applicator.patternSources schema = [] ∨
      ∀ regex, Regex.ofText? (Text.joinStrings "|" (Applicator.patternSources schema)) =
        some regex → ¬ regex.isMatch name)

/-- The visits that a keyword asks for: `schema` holds the keywords beside it, then come the
value that is validated and the value of the keyword. -/
inductive Keyword.Asks (schema : Fields) : Value → Value → Keyword → Ask → Prop
  | property {fields declared : Fields} {name : String} {s w : Value} :
      (name, s) ∈ declared → fields.lookup name = some w →
      Asks schema (.object fields) (.object declared) .properties ⟨[.key name], [.key name], w, s⟩
  | matching {fields patterns : Fields} {name source : String} {regex : Regex} {s w : Value} :
      (source, s) ∈ patterns → Regex.ofText? source = some regex → (name, w) ∈ fields →
      regex.isMatch name →
      Asks schema (.object fields) (.object patterns) .patternProperties
        ⟨[.key name], [.key source], w, s⟩
  | extra {fields extra : Fields} {name : String} {w : Value} :
      (name, w) ∈ fields → IsExtra schema name →
      Asks schema (.object fields) (.object extra) .additionalProperties
        ⟨[.key name], [], w, .object extra⟩
  | item {items : List Value} {s w : Value} {i : Nat} :
      s.array? = none → items[i]? = some w →
      Asks schema (.array items) s .items ⟨[.index i], [], w, s⟩
  | tuple {items schemas : List Value} {s w : Value} {i : Nat} :
      items[i]? = some w → schemas[i]? = some s →
      Asks schema (.array items) (.array schemas) .items ⟨[.index i], [.index i], w, s⟩
  | laterItem {items schemas : List Value} {later : Fields} {w : Value} {i : Nat} :
      (schema.lookup Keyword.items.name).bind Value.array? = some schemas →
      schemas.length ≤ i → items[i]? = some w →
      Asks schema (.array items) (.object later) .additionalItems
        ⟨[.index i], [], w, .object later⟩
  | branch {k : Keyword} {v s : Value} {schemas : List Value} {i : Nat} :
      k = .allOf ∨ k = .anyOf ∨ k = .oneOf → schemas[i]? = some s →
      Asks schema v (.array schemas) k ⟨[], [.index i], v, s⟩
  | not {v s : Value} :
      Asks schema v s .not ⟨[], [], v, s⟩

/-- A boolean in place of a schema for what is left over asks for nothing. -/
lemma Keyword.not_asks_bool {schema : Fields} {k : Keyword}
    (hk : k = .additionalProperties ∨ k = .additionalItems) (v : Value) (allowed : Bool)
    (a : Ask) : ¬ Asks schema v (.bool allowed) k a := by
  intro ha
  cases ha with
  | item | not => simp at hk

/-- What visits make of an ask, seen from the keyword.  For a part of the value no reference
is being followed yet. -/
def Visit.answer (visit : Visit) (scope : String) (here : List String) (a : Ask) :
    Except SchemaError Outcome :=
  (·.under a.path a.schemaPath) <$>
    (visit a.value a.schema).resultAt scope (if a.path = [] then here else [])

lemma Visit.answer_eq_ok_iff {visit : Visit} {scope : String} {here : List String} {a : Ask}
    {o : Outcome} :
    visit.answer scope here a = .ok o ↔
      ∃ o', (visit a.value a.schema).resultAt scope (if a.path = [] then here else []) = .ok o' ∧
        o'.under a.path a.schemaPath = o :=
  Except.map_eq_ok_iff

@[simp] lemma Outcome.violations_under_eq_nil_iff {o : Outcome} {path schemaPath : List PathStep} :
    (o.under path schemaPath).violations = [] ↔ o.violations = [] := by
  simp [Outcome.under]

@[simp] lemma Outcome.under_nil (o : Outcome) : o.under [] [] = o := by
  have hid : ∀ x ∈ o.violations,
      { x with path := [] ++ x.path, schemaPath := [] ++ x.schemaPath } = id x := by
    rintro ⟨⟩ -
    rfl
  rw [Outcome.under, List.map_congr_left hid, List.map_id]

/-! ## Objects, lists of items and texts -/

lemma Value.object_or (v : Value) :
    (∃ fields, v = .object fields) ∨ ∀ fields, v ≠ .object fields := by
  cases v <;> simp

lemma Value.array_or (v : Value) : (∃ items, v = .array items) ∨ ∀ items, v ≠ .array items := by
  cases v <;> simp

lemma Value.object?_eq_some_iff {v : Value} {fields : Fields} :
    v.object? = some fields ↔ v = .object fields := by
  cases v <;> simp [Value.object?]

lemma Value.array?_eq_some_iff {v : Value} {items : List Value} :
    v.array? = some items ↔ v = .array items := by
  cases v <;> simp [Value.array?]

lemma Value.string?_eq_some_iff {v : Value} {s : String} :
    v.string? = some s ↔ v = .string s := by
  cases v <;> simp [Value.string?]

lemma Value.array?_eq_none_iff {v : Value} : v.array? = none ↔ ∀ items, v ≠ .array items := by
  cases v <;> simp [Value.array?]

namespace Applicator

variable {vs schemas : List Value} {value w s : Value} {i n : Nat}

lemma mem_tuple_iff :
    ((w, s), i) ∈ (vs.zip schemas).zipIdx ↔ vs[i]? = some w ∧ schemas[i]? = some s := by
  rw [List.mem_zipIdx_iff_getElem?, List.getElem?_zip_eq_some]

lemma mem_later_iff :
    ((w, s), i) ∈ ((vs.drop n).map (·, value)).zipIdx n ↔
      n ≤ i ∧ vs[i]? = some w ∧ s = value := by
  rw [List.mem_zipIdx_iff_le_and_getElem?_sub, List.getElem?_map, List.getElem?_drop]
  refine and_congr_right fun hle => ?_
  rw [show n + (i - n) = i by omega, Option.map_eq_some_iff]
  constructor
  · rintro ⟨w', hw, heq⟩
    obtain ⟨rfl, rfl⟩ := Prod.mk.inj heq
    exact ⟨hw, rfl⟩
  · rintro ⟨hw, rfl⟩
    exact ⟨w, hw, rfl⟩

lemma mem_items_iff :
    ((w, s), i) ∈ (vs.map (·, value)).zipIdx ↔ vs[i]? = some w ∧ s = value := by
  simpa using @mem_later_iff vs value w s i 0

end Applicator

/-! ## Accounts -/

/-- A violation that a keyword raises itself: it is at the value of the keyword's schema and
at the keyword. -/
def Violation.IsOwn (x : Violation) : Prop :=
  x.path = [] ∧ x.schemaPath = [] ∧ x.keyword = none

lemma Violation.isOwn_ofMessage (message : String) : (ofMessage message).IsOwn :=
  ⟨rfl, rfl, rfl⟩

/-- A contribution that gathers the violations of everything it has asked for, beside some
violations of its own. -/
structure Contribution.Accounts (c : Contribution) (asks : Ask → Prop)
    (answer : Ask → Except SchemaError Outcome) (own : List Violation) : Prop where
  /-- Everything that is asked for has come to a good end. -/
  answered : ∀ a, asks a → ∃ o, answer a = .ok o
  /-- The violations of its own have no paths and no context. -/
  isOwn : ∀ x ∈ own, x.IsOwn ∧ x.context = []
  /-- The violations are its own and those of the visits. -/
  mem_iff : ∀ x, x ∈ c.violations ↔
    x ∈ own ∨ ∃ a o, asks a ∧ answer a = .ok o ∧ x ∈ o.violations

namespace Contribution

variable {c : Contribution} {asks : Ask → Prop} {answer : Ask → Except SchemaError Outcome}
  {own : List Violation}

/-- A contribution that gathers has no violations if it has none of its own and the visits
have none. -/
lemma Accounts.violations_eq_nil_iff (h : c.Accounts asks answer own) :
    c.violations = [] ↔
      own = [] ∧ ∀ a o, asks a → answer a = .ok o → o.violations = [] := by
  simp only [List.eq_nil_iff_forall_not_mem, h.mem_iff, not_or, not_exists, not_and]
  constructor
  · intro hx
    exact ⟨fun x hown => (hx x).1 hown, fun a o ha ho x hxo => (hx x).2 a o ha ho hxo⟩
  · rintro ⟨hown, hall⟩ x
    exact ⟨hown x, fun a o ha ho => hall a o ha ho x⟩

/-- A contribution without asks has nothing but violations of its own. -/
lemma accounts_of_no_asks (hasks : ∀ a, ¬ asks a)
    (hown : ∀ x ∈ c.violations, x.IsOwn ∧ x.context = []) :
    c.Accounts asks answer c.violations := by
  refine ⟨fun a ha => absurd ha (hasks a), hown, fun x => ?_⟩
  constructor
  · exact fun hx => Or.inl hx
  · rintro (hx | ⟨a, o, ha, -⟩)
    · exact hx
    · exact absurd ha (hasks a)

lemma isOwn_of_mem_ofMessage {message : String} :
    ∀ x ∈ (ofMessage message).violations, x.IsOwn ∧ x.context = [] := by
  intro x hx
  obtain rfl : x = .ofMessage message := by simpa [ofMessage, ofViolations] using hx
  exact ⟨Violation.isOwn_ofMessage message, rfl⟩

lemma accounts_nothing (hasks : ∀ a, ¬ asks a) : nothing.Accounts asks answer [] :=
  accounts_of_no_asks hasks (by simp [nothing, ofViolations])

lemma accounts_ofMessage (hasks : ∀ a, ¬ asks a) (message : String) :
    (ofMessage message).Accounts asks answer [.ofMessage message] :=
  accounts_of_no_asks hasks isOwn_of_mem_ofMessage

/-- A contribution that weighs everything it has asked for: its violations are its own, and
those of the visits may stand in their context. -/
structure Weighs (c : Contribution) (asks : Ask → Prop)
    (answer : Ask → Except SchemaError Outcome) : Prop where
  /-- Everything that is asked for has come to a good end. -/
  answered : ∀ a, asks a → ∃ o, answer a = .ok o
  /-- All violations are its own. -/
  isOwn : ∀ x ∈ c.violations, x.IsOwn
  /-- The violations in a context are those of the visits. -/
  context : ∀ x ∈ c.violations, ∀ y ∈ x.context,
    ∃ a o, asks a ∧ answer a = .ok o ∧ y ∈ o.violations

/-- A contribution with no more than a message weighs what it has asked for. -/
lemma weighs_of_plain (hanswered : ∀ a, asks a → ∃ o, answer a = .ok o)
    (hown : ∀ x ∈ c.violations, x.IsOwn ∧ x.context = []) : c.Weighs asks answer := by
  refine ⟨hanswered, fun x hx => (hown x hx).1, fun x hx y hy => ?_⟩
  rw [(hown x hx).2] at hy
  simp at hy

end Contribution

/-! ## Parts -/

/-- Parts that are what was made of some asks; further parts have no violations. -/
structure Part.Collects {κ : Type} (parts : List (Part κ)) (asks : Ask → Prop)
    (answer : Ask → Except SchemaError Outcome) : Prop where
  /-- Every ask has its part. -/
  complete : ∀ a, asks a → ∃ p ∈ parts, answer a = .ok p.outcome
  /-- Every part with violations belongs to an ask. -/
  sound : ∀ p ∈ parts, p.outcome.violations = [] ∨ ∃ a, asks a ∧ answer a = .ok p.outcome

namespace Part.Collects

variable {κ γ : Type} {asks : Ask → Prop} {answer : Ask → Except SchemaError Outcome}

lemma of_forall₂ {R : γ → Part κ → Prop} {l : List γ} {parts : List (Part κ)}
    (h : List.Forall₂ R l parts)
    (hcomplete : ∀ a, asks a → ∃ c ∈ l, ∀ p, R c p → answer a = .ok p.outcome)
    (hsound : ∀ c ∈ l, ∀ p, R c p →
      p.outcome.violations = [] ∨ ∃ a, asks a ∧ answer a = .ok p.outcome) :
    Collects parts asks answer := by
  refine ⟨fun a ha => ?_, fun p hp => ?_⟩
  · obtain ⟨c, hc, hall⟩ := hcomplete a ha
    obtain ⟨p, hp, hr⟩ := exists_right_of_forall₂ h hc
    exact ⟨p, hp, hall p hr⟩
  · obtain ⟨c, hc, hr⟩ := exists_left_of_forall₂ h hp
    exact hsound c hc p hr

lemma accounts {parts : List (Part κ)} (h : Collects parts asks answer)
    (change applied : Option Value) :
    Contribution.Accounts ⟨change, applied, Part.violations parts⟩ asks answer [] := by
  refine ⟨fun a ha => ?_, by simp, fun x => ?_⟩
  · obtain ⟨p, -, hp⟩ := h.complete a ha
    exact ⟨p.outcome, hp⟩
  · simp only [Part.violations, List.mem_flatMap, List.not_mem_nil, false_or]
    constructor
    · rintro ⟨p, hp, hx⟩
      rcases h.sound p hp with hnil | ⟨a, ha, hanswer⟩
      · simp [hnil] at hx
      · exact ⟨a, p.outcome, ha, hanswer, hx⟩
    · rintro ⟨a, o, ha, ho, hx⟩
      obtain ⟨p, hp, hanswer⟩ := h.complete a ha
      obtain rfl : o = p.outcome := by simpa [ho] using hanswer
      exact ⟨p, hp, hx⟩

end Part.Collects

end ApiContract
