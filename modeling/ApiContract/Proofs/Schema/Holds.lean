/-
# What keywords demand

Every keyword demands something of the value, which can be said without evaluating it.  The
keywords that apply schemas refer to satisfaction, here a parameter `sat`: `sat w s` stands
for the value `w` satisfying the schema `s`.

A keyword that comes to a good end has raised no violation if and only if its demand is met.
-/
import ApiContract.Proofs.Schema.Accounts

namespace ApiContract

/-! ## Demands -/

namespace Value

/-- The value is of a type.  Typed leaves are strings, and integers are numbers. -/
def IsOfType (v : Value) : String → Prop
  | "null" => v = .null
  | "boolean" => ∃ b, v = .bool b
  | "integer" => ∃ n, v = .integer n
  | "number" => (∃ n, v = .integer n) ∨ ∃ x, v = .number x
  | "string" => (∃ s, v = .string s) ∨ v.isTyped
  | "array" => ∃ items, v = .array items
  | "object" => ∃ fields, v = .object fields
  | _ => False

/-- The value is a multiple of a number: integers by divisibility, a double by an integer if
no remainder is left, anything by a double if the quotient is whole. -/
def IsMultipleOf (v divisor : Value) : Prop :=
  match divisor, v with
  | .integer d, .integer n => d.toInt ∣ n.toInt
  | .integer d, .number x => Number.hasRemainder x (Number.ofInteger d.toInt) = false
  | .number d, _ => ∀ x, v.number? = some x → Number.isTruncated (x / d)
  | _, _ => True

end Value

/-- The demand of a keyword; `schema` holds the keywords beside it, `v` is the value that is
validated and `value` the value of the keyword.  References are the matter of the whole
schema, and `dependencies` is not supported. -/
def Keyword.Holds (formats : Formats) (sat : Value → Value → Prop) (schema : Fields)
    (v value : Value) : Keyword → Prop
  | ref => True
  | type => ∃ name, (value = .string name ∨ ∃ names, value = .array names ∧ .string name ∈ names) ∧
      v.IsOfType name
  | enum => ∃ options, value = .array options ∧ ∃ option ∈ options, option == v
  | minLength => ∀ s, v = .string s → ∀ n, value.natural? = some n → n ≤ s.length
  | maxLength => ∀ s, v = .string s → ∀ n, value.natural? = some n → s.length ≤ n
  | pattern => ∀ s source regex, v = .string s → value = .string source →
      Regex.ofText? source = some regex → regex.isMatch s
  | minimum => v.isNumber →
      if Constraint.isExclusive "exclusiveMinimum" schema then
        Constraint.compare? v value = some .gt
      else Constraint.compare? v value ≠ some .lt
  | maximum => v.isNumber →
      if Constraint.isExclusive "exclusiveMaximum" schema then
        Constraint.compare? v value = some .lt
      else Constraint.compare? v value ≠ some .gt
  | multipleOf => v.IsMultipleOf value
  | properties => ∀ fields declared, v = .object fields → value = .object declared →
      ∀ name s w, (name, s) ∈ declared → fields.lookup name = some w → sat w s
  | patternProperties => ∀ fields patterns, v = .object fields → value = .object patterns →
      ∀ source s regex name w, (source, s) ∈ patterns → Regex.ofText? source = some regex →
        (name, w) ∈ fields → regex.isMatch name → sat w s
  | additionalProperties => ∀ fields, v = .object fields →
      ∀ name w, (name, w) ∈ fields → IsExtra schema name →
        value = .bool true ∨ value.object?.isSome ∧ sat w value
  | required => ∀ fields names, v = .object fields → value = .array names →
      ∀ name, .string name ∈ names → name ∈ Fields.keys fields
  | minProperties => ∀ fields, v = .object fields → ∀ n, value.natural? = some n → n ≤ fields.length
  | maxProperties => ∀ fields, v = .object fields → ∀ n, value.natural? = some n → fields.length ≤ n
  | dependencies => False
  | items => ∀ vs, v = .array vs →
      (∀ schemas, value = .array schemas →
        ∀ (i : Nat) w s, vs[i]? = some w → schemas[i]? = some s → sat w s) ∧
      (value.array? = none → ∀ w ∈ vs, sat w value)
  | additionalItems => ∀ vs schemas, v = .array vs →
      (schema.lookup Keyword.items.name).bind Value.array? = some schemas →
      ∀ (i : Nat) w, schemas.length ≤ i → vs[i]? = some w →
        value = .bool true ∨ value.object?.isSome ∧ sat w value
  | minItems => ∀ vs, v = .array vs → ∀ n, value.natural? = some n → n ≤ vs.length
  | maxItems => ∀ vs, v = .array vs → ∀ n, value.natural? = some n → vs.length ≤ n
  | uniqueItems => ∀ vs, v = .array vs → value = .bool true →
      vs.Pairwise fun earlier later => ¬ later == earlier
  | allOf => ∀ schemas, value = .array schemas → ∀ s ∈ schemas, sat v s
  | anyOf => ∃ schemas, value = .array schemas ∧ ∃ s ∈ schemas, sat v s
  | oneOf => ∃ schemas, value = .array schemas ∧ ∃! i : Nat, ∃ s, schemas[i]? = some s ∧ sat v s
  | not => ¬ sat v value
  | format => ∀ name, value = .string name → ∃ change, formats.check name v = .ok change

/-- The demand of a keyword depends on satisfaction only where the keyword asks for it. -/
lemma Keyword.Holds.of_iff {formats : Formats} {sat sat' : Value → Value → Prop}
    {schema : Fields} {v value : Value} {k : Keyword}
    (hsat : ∀ a, Asks schema v value k a → (sat a.value a.schema ↔ sat' a.value a.schema))
    (h : k.Holds formats sat schema v value) : k.Holds formats sat' schema v value := by
  cases k with
  | properties =>
    intro fields declared hv hvalue name s w hmem hlookup
    have hask : Asks schema v value .properties ⟨[.key name], [.key name], w, s⟩ := by
      subst hv hvalue
      exact .property hmem hlookup
    exact (hsat _ hask).1 (h fields declared hv hvalue name s w hmem hlookup)
  | patternProperties =>
    intro fields patterns hv hvalue source s regex name w hmem hregex hfield hmatch
    have hask : Asks schema v value .patternProperties ⟨[.key name], [.key source], w, s⟩ := by
      subst hv hvalue
      exact .matching hmem hregex hfield hmatch
    have hw := h fields patterns hv hvalue source s regex name w hmem hregex hfield hmatch
    exact (hsat _ hask).1 hw
  | additionalProperties =>
    intro fields hv name w hfield hextra
    rcases h fields hv name w hfield hextra with hall | ⟨hobject, hw⟩
    · exact Or.inl hall
    · refine Or.inr ⟨hobject, ?_⟩
      cases value with
      | object extra =>
        subst hv
        exact (hsat _ (.extra hfield hextra)).1 hw
      | _ => simp [Value.object?] at hobject
  | items =>
    intro vs hv
    subst hv
    obtain ⟨htuple, hsingle⟩ := h vs rfl
    refine ⟨?_, ?_⟩
    · rintro schemas rfl i w s hw hs
      exact (hsat _ (.tuple hw hs)).1 (htuple schemas rfl i w s hw hs)
    · intro hnone w hw
      obtain ⟨i, hi⟩ := List.mem_iff_getElem?.1 hw
      exact (hsat _ (.item hnone hi)).1 (hsingle hnone w hw)
  | additionalItems =>
    intro vs schemas hv hschemas i w hle hw
    rcases h vs schemas hv hschemas i w hle hw with hall | ⟨hobject, hsat'⟩
    · exact Or.inl hall
    · refine Or.inr ⟨hobject, ?_⟩
      cases value with
      | object later =>
        subst hv
        exact (hsat _ (.laterItem hschemas hle hw)).1 hsat'
      | _ => simp [Value.object?] at hobject
  | allOf =>
    rintro schemas rfl s hs
    obtain ⟨i, hi⟩ := List.mem_iff_getElem?.1 hs
    exact (hsat _ (.branch (by simp) hi)).1 (h schemas rfl s hs)
  | anyOf =>
    obtain ⟨schemas, rfl, s, hs, hsats⟩ := h
    obtain ⟨i, hi⟩ := List.mem_iff_getElem?.1 hs
    exact ⟨schemas, rfl, s, hs, (hsat _ (.branch (by simp) hi)).1 hsats⟩
  | oneOf =>
    obtain ⟨schemas, rfl, i, ⟨s, hs, hsats⟩, hunique⟩ := h
    refine ⟨schemas, rfl, i, ⟨s, hs, (hsat _ (.branch (by simp) hs)).1 hsats⟩, ?_⟩
    -- Of the other branches it matters that they do not pass, so the equivalence is needed.
    rintro j ⟨t, ht, hsatt⟩
    exact hunique j ⟨t, ht, (hsat _ (.branch (by simp) ht)).2 hsatt⟩
  | not => exact fun hs => h ((hsat _ .not).2 hs)
  -- The other keywords ask for nothing.
  | ref | type | enum | minLength | maxLength | pattern | minimum | maximum | multipleOf
  | required | minProperties | maxProperties | dependencies | minItems | maxItems | uniqueItems
  | format => exact h

/-! ## Constraints on a value -/

lemma Fields.has_iff_mem_keys {name : String} {fields : Fields} :
    Fields.has name fields = true ↔ name ∈ Fields.keys fields := by
  simp [Fields.has, Fields.keys]

namespace Constraint

variable {v value : Value} {ms : List String}

lemma expect_ok {holds : Bool} {message : String} (h : expect holds message = .ok ms) :
    ms = [] ↔ holds = true := by
  obtain rfl := Except.ok.inj h
  cases holds <;> simp

lemma hasType_ok {type : String} {b : Bool} (h : hasType v type = .ok b) :
    b = true ↔ v.IsOfType type := by
  unfold hasType at h
  split at h
  case h_8 => simp at h
  all_goals
    obtain rfl := Except.ok.inj h
    cases v <;> simp [Value.IsOfType, Value.array?, Value.object?, Value.isNull, Value.bool?,
      Value.integer?, Value.isNumber, Value.string?, Value.isTyped]

lemma hasSomeType_ok {types : List String} {b : Bool} (h : hasSomeType v types = .ok b) :
    b = true ↔ ∃ type ∈ types, v.IsOfType type := by
  induction types with
  | nil =>
    obtain rfl := Except.ok.inj h
    simp
  | cons type types ih =>
    rw [hasSomeType, Except.bind_eq_ok_iff] at h
    obtain ⟨b', hb', h⟩ := h
    have htype := hasType_ok hb'
    cases b' with
    | true =>
      obtain rfl := Except.ok.inj h
      simp [← htype]
    | false =>
      have hnot : ¬ v.IsOfType type := fun hv => by simpa using htype.2 hv
      simp [ih h, hnot]

lemma strings_ok {error : SchemaError} {listed : List Value} {names : List String}
    (h : listed.mapM (fun name => name.string?.elim (Except.error error) .ok) = .ok names)
    (name : String) : name ∈ names ↔ .string name ∈ listed := by
  rw [Except.mapM_eq_ok_iff] at h
  have hstring : ∀ (w : Value) (s : String),
      w.string?.elim (Except.error error) .ok = .ok s → w = .string s := by
    intro w s hw
    cases w <;> simp [Value.string?] at hw
    rw [hw]
  constructor
  · intro hname
    obtain ⟨w, hw, hs⟩ := exists_left_of_forall₂ h hname
    exact hstring w name hs ▸ hw
  · intro hname
    obtain ⟨s, hs, hw⟩ := exists_right_of_forall₂ h hname
    rw [Value.string.inj (hstring _ _ hw)]
    exact hs

lemma typeNames_ok {names : List String} (h : typeNames value = .ok names) (name : String) :
    name ∈ names ↔
      value = .string name ∨ ∃ listed, value = .array listed ∧ .string name ∈ listed := by
  unfold typeNames at h
  dsimp only at h
  split at h
  · obtain rfl := Except.ok.inj h
    simp [eq_comm]
  · simp [strings_ok h name]
  · simp at h

lemma type_ok (h : type v value = .ok ms) :
    ms = [] ↔ ∃ name,
      (value = .string name ∨ ∃ names, value = .array names ∧ .string name ∈ names) ∧
        v.IsOfType name := by
  rw [type, Except.bind_eq_ok_iff] at h
  obtain ⟨names, hnames, h⟩ := h
  rw [Except.bind_eq_ok_iff] at h
  obtain ⟨b, hb, h⟩ := h
  rw [expect_ok h, hasSomeType_ok hb]
  simp only [typeNames_ok hnames]

lemma enum_ok (h : enum v value = .ok ms) :
    ms = [] ↔ ∃ options, value = .array options ∧ ∃ option ∈ options, option == v := by
  unfold enum at h
  split at h
  · rw [expect_ok h]
    simp
  · simp at h

lemma bound_ok {k : Keyword} {n : Nat} (h : bound k value = .ok n) : value.natural? = some n := by
  rw [bound] at h
  cases hn : value.natural? with
  | none => simp [hn] at h
  | some m =>
    rw [hn] at h
    rw [Except.ok.inj h]

lemma atLeast_ok {k : Keyword} {size : Option Nat} {message : String}
    (h : atLeast k size value message = .ok ms) :
    ms = [] ↔ ∀ m, size = some m → ∀ n, value.natural? = some n → n ≤ m := by
  rw [atLeast, Except.bind_eq_ok_iff] at h
  obtain ⟨n, hn, h⟩ := h
  rw [expect_ok h, bound_ok hn]
  cases size <;> simp

lemma atMost_ok {k : Keyword} {size : Option Nat} {message : String}
    (h : atMost k size value message = .ok ms) :
    ms = [] ↔ ∀ m, size = some m → ∀ n, value.natural? = some n → m ≤ n := by
  rw [atMost, Except.bind_eq_ok_iff] at h
  obtain ⟨n, hn, h⟩ := h
  rw [expect_ok h, bound_ok hn]
  cases size <;> simp

lemma minLength_ok (h : minLength v value = .ok ms) :
    ms = [] ↔ ∀ s, v = .string s → ∀ n, value.natural? = some n → n ≤ s.length := by
  rw [atLeast_ok h]
  cases v <;> simp [characters, Value.string?]

lemma maxLength_ok (h : maxLength v value = .ok ms) :
    ms = [] ↔ ∀ s, v = .string s → ∀ n, value.natural? = some n → s.length ≤ n := by
  rw [atMost_ok h]
  cases v <;> simp [characters, Value.string?]

lemma minItems_ok (h : minItems v value = .ok ms) :
    ms = [] ↔ ∀ vs, v = .array vs → ∀ n, value.natural? = some n → n ≤ vs.length := by
  rw [atLeast_ok h]
  cases v <;> simp [itemCount, Value.array?]

lemma maxItems_ok (h : maxItems v value = .ok ms) :
    ms = [] ↔ ∀ vs, v = .array vs → ∀ n, value.natural? = some n → vs.length ≤ n := by
  rw [atMost_ok h]
  cases v <;> simp [itemCount, Value.array?]

lemma minProperties_ok (h : minProperties v value = .ok ms) :
    ms = [] ↔ ∀ fields, v = .object fields → ∀ n, value.natural? = some n → n ≤ fields.length := by
  rw [atLeast_ok h]
  cases v <;> simp [fieldCount, Value.object?]

lemma maxProperties_ok (h : maxProperties v value = .ok ms) :
    ms = [] ↔ ∀ fields, v = .object fields → ∀ n, value.natural? = some n → fields.length ≤ n := by
  rw [atMost_ok h]
  cases v <;> simp [fieldCount, Value.object?]

lemma minimum_ok {schema : Fields} (h : minimum schema v value = .ok ms) :
    ms = [] ↔ (v.isNumber → if isExclusive "exclusiveMinimum" schema then
      compare? v value = some .gt else compare? v value ≠ some .lt) := by
  rw [minimum] at h
  split at h
  · simp at h
  split at h
  · rename_i hnumber
    obtain rfl := Except.ok.inj h
    have hnumber : v.isNumber = false := by simpa using hnumber
    simp [hnumber]
  · rename_i hnumber
    have hnumber : v.isNumber = true := by simpa using hnumber
    split at h
    · rename_i hexclusive
      rw [expect_ok h]
      simp [hnumber, hexclusive]
    · rename_i hexclusive
      rw [expect_ok h]
      simp [hnumber, hexclusive]

lemma maximum_ok {schema : Fields} (h : maximum schema v value = .ok ms) :
    ms = [] ↔ (v.isNumber → if isExclusive "exclusiveMaximum" schema then
      compare? v value = some .lt else compare? v value ≠ some .gt) := by
  rw [maximum] at h
  split at h
  · simp at h
  split at h
  · rename_i hnumber
    obtain rfl := Except.ok.inj h
    have hnumber : v.isNumber = false := by simpa using hnumber
    simp [hnumber]
  · rename_i hnumber
    have hnumber : v.isNumber = true := by simpa using hnumber
    split at h
    · rename_i hexclusive
      rw [expect_ok h]
      simp [hnumber, hexclusive]
    · rename_i hexclusive
      rw [expect_ok h]
      simp [hnumber, hexclusive]

lemma isMultiple_iff : isMultiple v value = true ↔ v.IsMultipleOf value := by
  unfold isMultiple
  split
  · cases v <;> simp [Value.IsMultipleOf, Value.number?]
  · simp [Value.IsMultipleOf, Int.dvd_iff_tmod_eq_zero]
  · simp [Value.IsMultipleOf]
  · rename_i hnumber hinteger hdouble
    cases value <;> cases v <;> simp_all [Value.IsMultipleOf]

lemma multipleOf_ok (h : multipleOf v value = .ok ms) : ms = [] ↔ v.IsMultipleOf value := by
  rw [multipleOf] at h
  split at h
  · simp at h
  split at h
  · simp at h
  · rw [expect_ok h, isMultiple_iff]

lemma areDistinct_iff {vs : List Value} :
    areDistinct vs = true ↔ vs.Pairwise fun earlier later => ¬ later == earlier := by
  induction vs with
  | nil => simp [areDistinct]
  | cons v vs ih => simp [areDistinct, ih]

lemma uniqueItems_ok (h : uniqueItems v value = .ok ms) :
    ms = [] ↔ ∀ vs, v = .array vs → value = .bool true →
      vs.Pairwise fun earlier later => ¬ later == earlier := by
  unfold uniqueItems at h
  split at h
  · rename_i enabled
    rw [expect_ok h]
    cases enabled <;> cases v <;> simp [Value.array?, areDistinct_iff]
  · simp at h

lemma required_ok (h : required v value = .ok ms) :
    ms = [] ↔ ∀ fields names, v = .object fields → value = .array names →
      ∀ name, .string name ∈ names → name ∈ Fields.keys fields := by
  unfold required at h
  split at h
  · rename_i listed
    split at h
    · rename_i fields
      rw [Except.bind_eq_ok_iff] at h
      obtain ⟨names, hnames, h⟩ := h
      obtain rfl := Except.ok.inj h
      simp [strings_ok hnames, Fields.has_iff_mem_keys]
    · rename_i hobject
      obtain rfl := Except.ok.inj h
      refine ⟨fun _ fields names hv => absurd hv (hobject fields), fun _ => rfl⟩
  · simp at h

end Constraint

/-! ## All keywords -/

/-- A contribution that gathers has no violations if it has none of its own and everything
that is asked for is satisfied. -/
lemma Contribution.Accounts.eq_nil_iff_of_sat {c : Contribution} {asks : Ask → Prop}
    {answer : Ask → Except SchemaError Outcome} {own : List Violation}
    {sat : Value → Value → Prop} (h : c.Accounts asks answer own)
    (hsat : ∀ a o, asks a → answer a = .ok o → (o.violations = [] ↔ sat a.value a.schema)) :
    c.violations = [] ↔ own = [] ∧ ∀ a, asks a → sat a.value a.schema := by
  rw [h.violations_eq_nil_iff]
  refine and_congr_right fun _ => ?_
  constructor
  · intro hall a ha
    obtain ⟨o, ho⟩ := h.answered a ha
    exact (hsat a o ha ho).1 (hall a o ha ho)
  · intro hall a o ha ho
    exact (hsat a o ha ho).2 (hall a ha)

namespace Keyword

open Walk

variable {val : Validator} {follow : Follow} {visit : Visit} {scope : String}
  {here : List String} {schema : Fields} {v value : Value} {c : Contribution}
  {sat : Value → Value → Prop}

lemma constraint_holds {messages : Constraint.Messages} {demand : Prop}
    (hmessages : Constraint.Inherent messages)
    (h : (Applicator.constraint messages).resultAt scope here = .ok c)
    (hdemand : ∀ ms, messages = .ok ms → (ms = [] ↔ demand)) :
    c.violations = [] ↔ demand := by
  obtain ⟨ms, hms, rfl⟩ := Applicator.constraint_ok hmessages h
  rw [← hdemand ms hms]
  simp [Contribution.ofViolations]

lemma pattern_holds {formats : Formats}
    (h : (Applicator.pattern v value).resultAt scope here = .ok c) :
    c.violations = [] ↔ Holds formats sat schema v value .pattern := by
  obtain ⟨source, rfl, ⟨s, regex, rfl, hregex, hc⟩ | ⟨hstring, rfl⟩⟩ := Applicator.pattern_ok h
  · rcases hc with ⟨hmatch, rfl⟩ | ⟨hmatch, message, rfl⟩
    · refine iff_of_true rfl ?_
      rintro _ _ regex' ⟨⟩ ⟨⟩ hregex'
      rwa [← Option.some.inj (hregex.symm.trans hregex')]
    · refine iff_of_false (by simp [Contribution.ofMessage, Contribution.ofViolations]) ?_
      exact fun hall => hmatch (hall s source regex rfl rfl hregex)
  · simp [Holds, Contribution.nothing, Contribution.ofViolations, hstring]

lemma format_holds (h : (Applicator.format val v value).resultAt scope here = .ok c) :
    c.violations = [] ↔ Holds val.formats sat schema v value .format := by
  obtain ⟨name, rfl, ⟨change, hcheck, rfl⟩ | ⟨fault, message, hcheck, rfl⟩⟩ :=
    Applicator.format_ok h
  · simp [Holds, hcheck]
  · simp [Holds, hcheck, Contribution.ofViolations]

section

variable (hvisit : visit.Steady)

include hvisit

lemma properties_holds (hfills : val.fills = false)
    (hsat : ∀ a o, Asks schema v value .properties a → visit.answer scope here a = .ok o →
      (o.violations = [] ↔ sat a.value a.schema))
    (h : (Applicator.properties val visit v value).resultAt scope here = .ok c) :
    c.violations = [] ↔ Holds val.formats sat schema v value .properties := by
  rw [(Applicator.properties_accounts hvisit hfills schema h).eq_nil_iff_of_sat hsat]
  constructor
  · rintro ⟨-, hall⟩ fields declared rfl rfl name s w hmem hlookup
    exact hall _ (.property hmem hlookup)
  · intro hholds
    refine ⟨rfl, fun a ha => ?_⟩
    cases ha with
    | property hmem hlookup => exact hholds _ _ rfl rfl _ _ _ hmem hlookup
    | branch hk => simp at hk

lemma patternProperties_holds {formats : Formats}
    (hsat : ∀ a o, Asks schema v value .patternProperties a → visit.answer scope here a = .ok o →
      (o.violations = [] ↔ sat a.value a.schema))
    (h : (Applicator.patternProperties visit v value).resultAt scope here = .ok c) :
    c.violations = [] ↔ Holds formats sat schema v value .patternProperties := by
  rw [(Applicator.patternProperties_accounts hvisit schema h).eq_nil_iff_of_sat hsat]
  constructor
  · rintro ⟨-, hall⟩ fields patterns rfl rfl source s regex name w hmem hregex hfield hmatch
    exact hall _ (.matching hmem hregex hfield hmatch)
  · intro hholds
    refine ⟨rfl, fun a ha => ?_⟩
    cases ha with
    | matching hmem hregex hfield hmatch =>
      exact hholds _ _ rfl rfl _ _ _ _ _ hmem hregex hfield hmatch
    | branch hk => simp at hk

lemma additionalProperties_holds {formats : Formats}
    (hsat : ∀ a o, Asks schema v value .additionalProperties a →
      visit.answer scope here a = .ok o → (o.violations = [] ↔ sat a.value a.schema))
    (h : (Applicator.additionalProperties visit schema v value).resultAt scope here = .ok c) :
    c.violations = [] ↔ Holds formats sat schema v value .additionalProperties := by
  obtain ⟨own, hc, hown⟩ := Applicator.additionalProperties_accounts hvisit h
  rw [hc.eq_nil_iff_of_sat hsat, hown]
  constructor
  · rintro ⟨hfalse, hall⟩ fields rfl name w hfield hextra
    rcases Applicator.kind_of_additionalProperties_ok h with ⟨extra, rfl⟩ | ⟨allowed, rfl⟩
    · exact Or.inr ⟨rfl, hall _ (.extra hfield hextra)⟩
    · cases allowed with
      | true => exact Or.inl rfl
      | false => exact absurd hextra (hfalse fields rfl rfl name w hfield)
  · intro hholds
    refine ⟨?_, fun a ha => ?_⟩
    · rintro fields rfl rfl name w hfield hextra
      simpa [Value.object?] using hholds fields rfl name w hfield hextra
    · cases ha with
      | extra hfield hextra => simpa [Value.object?] using hholds _ rfl _ _ hfield hextra
      | branch hk => simp at hk

lemma items_holds {formats : Formats}
    (hsat : ∀ a o, Asks schema v value .items a → visit.answer scope here a = .ok o →
      (o.violations = [] ↔ sat a.value a.schema))
    (h : (Applicator.items visit v value).resultAt scope here = .ok c) :
    c.violations = [] ↔ Holds formats sat schema v value .items := by
  rw [(Applicator.items_accounts hvisit schema h).eq_nil_iff_of_sat hsat]
  constructor
  · rintro ⟨-, hall⟩ vs rfl
    refine ⟨?_, fun hnone w hw => ?_⟩
    · rintro schemas rfl i w s hw hs
      exact hall _ (.tuple hw hs)
    · obtain ⟨i, hi⟩ := List.mem_iff_getElem?.1 hw
      exact hall _ (.item hnone hi)
  · intro hholds
    refine ⟨rfl, fun a ha => ?_⟩
    cases ha with
    | item hnone hw => exact (hholds _ rfl).2 hnone _ (List.mem_of_getElem? hw)
    | tuple hw hs => exact (hholds _ rfl).1 _ rfl _ _ _ hw hs
    | branch hk => simp at hk

lemma additionalItems_holds {formats : Formats}
    (hsat : ∀ a o, Asks schema v value .additionalItems a → visit.answer scope here a = .ok o →
      (o.violations = [] ↔ sat a.value a.schema))
    (h : (Applicator.additionalItems visit schema v value).resultAt scope here = .ok c) :
    c.violations = [] ↔ Holds formats sat schema v value .additionalItems := by
  obtain ⟨own, hc, hown⟩ := Applicator.additionalItems_accounts hvisit h
  rw [hc.eq_nil_iff_of_sat hsat, hown]
  constructor
  · rintro ⟨hfalse, hall⟩ vs schemas rfl hschemas i w hle hw
    rcases Applicator.kind_of_additionalItems_ok h with ⟨later, rfl⟩ | ⟨allowed, rfl⟩
    · exact Or.inr ⟨rfl, hall _ (.laterItem hschemas hle hw)⟩
    · cases allowed with
      | true => exact Or.inl rfl
      | false =>
        have hlength := hfalse vs schemas rfl rfl hschemas
        have hi : i < vs.length := (List.getElem?_eq_some_iff.1 hw).1
        omega
  · intro hholds
    refine ⟨?_, fun a ha => ?_⟩
    · -- The first of the later items would be against the demand.
      rintro vs schemas rfl rfl hschemas
      by_contra hlength
      have hlt : schemas.length < vs.length := by omega
      simpa [Value.object?] using
        hholds vs schemas rfl hschemas schemas.length _ (Nat.le_refl _)
          (List.getElem?_eq_getElem hlt)
    · cases ha with
      | laterItem hschemas hle hw =>
        simpa [Value.object?] using hholds _ _ rfl hschemas _ _ hle hw
      | branch hk => simp at hk

lemma allOf_holds {formats : Formats}
    (hsat : ∀ a o, Asks schema v value .allOf a → visit.answer scope here a = .ok o →
      (o.violations = [] ↔ sat a.value a.schema))
    (h : (Applicator.allOf visit v value).resultAt scope here = .ok c) :
    c.violations = [] ↔ Holds formats sat schema v value .allOf := by
  rw [(Applicator.allOf_accounts hvisit schema h).eq_nil_iff_of_sat hsat]
  constructor
  · rintro ⟨-, hall⟩ schemas rfl s hs
    obtain ⟨i, hi⟩ := List.mem_iff_getElem?.1 hs
    exact hall _ (.branch (by simp) hi)
  · intro hholds
    refine ⟨rfl, fun a ha => ?_⟩
    cases ha with
    | branch hk hs => exact hholds _ rfl _ (List.mem_of_getElem? hs)

lemma anyOf_holds {formats : Formats}
    (hsat : ∀ a o, Asks schema v value .anyOf a → visit.answer scope here a = .ok o →
      (o.violations = [] ↔ sat a.value a.schema))
    (h : (Applicator.anyOf visit v value).resultAt scope here = .ok c) :
    c.violations = [] ↔ Holds formats sat schema v value .anyOf := by
  obtain ⟨hc, hiff⟩ := Applicator.anyOf_weighs hvisit schema h
  rw [hiff]
  constructor
  · rintro ⟨a, o, ha, ho, hnil⟩
    have hs := (hsat a o ha ho).1 hnil
    cases ha with
    | branch hk hmem => exact ⟨_, rfl, _, List.mem_of_getElem? hmem, hs⟩
  · rintro ⟨schemas, rfl, s, hs, hsats⟩
    obtain ⟨i, hi⟩ := List.mem_iff_getElem?.1 hs
    have hask : Asks schema v (.array schemas) .anyOf ⟨[], [.index i], v, s⟩ :=
      .branch (by simp) hi
    obtain ⟨o, ho⟩ := hc.answered _ hask
    exact ⟨_, o, hask, ho, (hsat _ o hask ho).2 hsats⟩

lemma oneOf_holds {formats : Formats}
    (hsat : ∀ a o, Asks schema v value .oneOf a → visit.answer scope here a = .ok o →
      (o.violations = [] ↔ sat a.value a.schema))
    (h : (Applicator.oneOf visit v value).resultAt scope here = .ok c) :
    c.violations = [] ↔ Holds formats sat schema v value .oneOf := by
  obtain ⟨hc, hiff⟩ := Applicator.oneOf_weighs hvisit schema h
  rw [hiff]
  have hpasses : ∀ schemas, value = .array schemas → ∀ i,
      Applicator.BranchPasses (visit.answer scope here) v value i ↔
        ∃ s, schemas[i]? = some s ∧ sat v s := by
    rintro schemas rfl i
    constructor
    · rintro ⟨_, s, o, ⟨⟩, hs, ho, hnil⟩
      exact ⟨s, hs, (hsat _ o (.branch (by simp) hs) ho).1 hnil⟩
    · rintro ⟨s, hs, hsats⟩
      have hask : Asks schema v (.array schemas) .oneOf ⟨[], [.index i], v, s⟩ :=
        .branch (by simp) hs
      obtain ⟨o, ho⟩ := hc.answered _ hask
      exact ⟨schemas, s, o, rfl, hs, ho, (hsat _ o hask ho).2 hsats⟩
  constructor
  · rintro ⟨i, hi, hunique⟩
    obtain ⟨schemas, -, -, rfl, -⟩ := id hi
    refine ⟨schemas, rfl, i, (hpasses schemas rfl i).1 hi, fun j hj => ?_⟩
    exact hunique j ((hpasses schemas rfl j).2 hj)
  · rintro ⟨schemas, rfl, i, hi, hunique⟩
    refine ⟨i, (hpasses schemas rfl i).2 hi, fun j hj => ?_⟩
    exact hunique j ((hpasses schemas rfl j).1 hj)

lemma not_holds {formats : Formats}
    (hsat : ∀ a o, Asks schema v value .not a → visit.answer scope here a = .ok o →
      (o.violations = [] ↔ sat a.value a.schema))
    (h : (Applicator.not visit v value).resultAt scope here = .ok c) :
    c.violations = [] ↔ Holds formats sat schema v value .not := by
  obtain ⟨hc, hiff⟩ := Applicator.not_weighs hvisit schema h
  obtain ⟨o, ho⟩ := hc.answered _ .not
  have hs := hsat _ o .not ho
  rw [hiff]
  constructor
  · rintro ⟨o', ho', hne⟩ hsatv
    obtain rfl : o = o' := by simpa [ho] using ho'
    exact hne (hs.2 hsatv)
  · exact fun hnot => ⟨o, ho, fun hnil => hnot (hs.1 hnil)⟩

/-- A keyword that comes to a good end raises no violation if and only if its demand is
met, as far as this is so for everything it asks for. -/
theorem contribution_holds (hfills : val.fills = false) {k : Keyword} (href : k ≠ ref)
    (hsat : ∀ a o, Asks schema v value k a → visit.answer scope here a = .ok o →
      (o.violations = [] ↔ sat a.value a.schema))
    (h : (k.contribution val follow visit schema v value).resultAt scope here = .ok c) :
    c.violations = [] ↔ k.Holds val.formats sat schema v value := by
  cases k with
  | ref => exact absurd rfl href
  | type => exact constraint_holds (.type v value) h fun _ => Constraint.type_ok
  | enum => exact constraint_holds (.enum v value) h fun _ => Constraint.enum_ok
  | minLength =>
    exact constraint_holds (.atLeast _ _ value _) h fun _ => Constraint.minLength_ok
  | maxLength =>
    exact constraint_holds (.atMost _ _ value _) h fun _ => Constraint.maxLength_ok
  | pattern => exact pattern_holds h
  | minimum => exact constraint_holds (.minimum schema v value) h fun _ => Constraint.minimum_ok
  | maximum => exact constraint_holds (.maximum schema v value) h fun _ => Constraint.maximum_ok
  | multipleOf => exact constraint_holds (.multipleOf v value) h fun _ => Constraint.multipleOf_ok
  | properties => exact properties_holds hvisit hfills hsat h
  | patternProperties => exact patternProperties_holds hvisit hsat h
  | additionalProperties => exact additionalProperties_holds hvisit hsat h
  | required => exact constraint_holds (.required v value) h fun _ => Constraint.required_ok
  | minProperties =>
    exact constraint_holds (.atLeast _ _ value _) h fun _ => Constraint.minProperties_ok
  | maxProperties =>
    exact constraint_holds (.atMost _ _ value _) h fun _ => Constraint.maxProperties_ok
  | dependencies => simp [contribution] at h
  | items => exact items_holds hvisit hsat h
  | additionalItems => exact additionalItems_holds hvisit hsat h
  | minItems =>
    exact constraint_holds (.atLeast _ _ value _) h fun _ => Constraint.minItems_ok
  | maxItems =>
    exact constraint_holds (.atMost _ _ value _) h fun _ => Constraint.maxItems_ok
  | uniqueItems =>
    exact constraint_holds (.uniqueItems v value) h fun _ => Constraint.uniqueItems_ok
  | allOf => exact allOf_holds hvisit hsat h
  | anyOf => exact anyOf_holds hvisit hsat h
  | oneOf => exact oneOf_holds hvisit hsat h
  | not => exact not_holds hvisit hsat h
  | format => exact format_holds h

end

end Keyword

end ApiContract
