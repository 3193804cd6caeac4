/-
# Bounds of number parameters

A parameter whose schema declares a number between two bounds is read as a double.  What is
accepted keeps to the bounds, if the double is a number in truth.  Only the word `nan` spells a
double that is none.  It compares to no bound, so it fails the test of an exclusive bound, which
asks for one side, and passes that of an inclusive bound, which refuses the other side.
-/
import ApiContract.Parameter.Basic
import ApiContract.Proofs.Number.Order
import ApiContract.Proofs.Parameter.TextList
import ApiContract.Proofs.Schema.FilledDefault
import ApiContract.Proofs.Schema.Rewriting
import ApiContract.Proofs.Schema.Satisfaction

namespace ApiContract

open Number (readDouble SpellsNaN IsNumber isNumber_of_readDouble_iff)
open Validator (reference?)

/-! ## Sides of a bound -/

namespace Constraint

variable {wrong : Ordering} {exclusive : Bool} {v bound : Value}

/-- A value is on the right side of a bound: the two compare, the value is not on the wrong side,
and if the bound is exclusive, the two are not equal. -/
def IsWithin (wrong : Ordering) (exclusive : Bool) (v bound : Value) : Prop :=
  ∃ order, compare? v bound = some order ∧ order ≠ wrong ∧ (exclusive = true → order ≠ .eq)

/-- The test of a bound: an exclusive bound asks for the right side, an inclusive one refuses the
wrong side. -/
def Passes (wrong : Ordering) (exclusive : Bool) (v bound : Value) : Prop :=
  if exclusive then compare? v bound = some wrong.swap else compare? v bound ≠ some wrong

/-- What passes the test of a bound is on the right side of it, if the two compare. -/
lemma Passes.isWithin_iff (h : Passes wrong exclusive v bound) (hwrong : wrong ≠ .eq) :
    IsWithin wrong exclusive v bound ↔ compare? v bound ≠ none := by
  constructor
  · rintro ⟨order, horder, -⟩
    simp [horder]
  · intro hsome
    obtain ⟨order, horder⟩ := Option.ne_none_iff_exists'.1 hsome
    refine ⟨order, horder, ?_⟩
    rw [Passes, horder] at h
    cases exclusive with
    | false => exact ⟨fun heq => h (congrArg some heq), by simp⟩
    | true =>
      -- The side is the opposite of the wrong one, which is not the middle.
      obtain rfl : order = wrong.swap := Option.some.inj h
      have hne : wrong.swap ≠ wrong := by cases wrong <;> simp_all
      have hmiddle : wrong.swap ≠ .eq := by cases wrong <;> simp_all
      exact ⟨hne, fun _ => hmiddle⟩

/-- Nothing passes the test of an exclusive bound that it does not compare to. -/
lemma Passes.exclusive_eq_false (h : Passes wrong exclusive v bound)
    (hnone : compare? v bound = none) : exclusive = false := by
  cases exclusive with
  | false => rfl
  | true =>
    rw [Passes, hnone] at h
    cases h

end Constraint

open Constraint (IsWithin Passes isExclusive compare?)

/-- A schema declares a number between a least and a greatest one, both numbers in truth. -/
structure DeclaresRange (fields : Fields) (least greatest : Value) : Prop where
  /-- The type. -/
  type : fields.lookup Keyword.type.name = some (.string "number")
  /-- The least number. -/
  minimum : fields.lookup Keyword.minimum.name = some least
  /-- The greatest number. -/
  maximum : fields.lookup Keyword.maximum.name = some greatest
  /-- The least number compares. -/
  least : ∃ y, least.number? = some y ∧ IsNumber y
  /-- The greatest number compares. -/
  greatest : ∃ y, greatest.number? = some y ∧ IsNumber y

/-! ## The schema that references end in -/

namespace Coercion

open Walk

variable {val : Validator} {n : Nat} {scope : String} {here : List String} {schema v w : Value}
  {fields : Fields} {type text : String}

/-- The type that a schema declares is that of the schema in which its references end. -/
lemma typeOf_of_endsAt (hends : val.store.EndsAt scope schema (.object fields))
    (htype : fields.lookup Keyword.type.name = some (.string type)) {found : String}
    (h : (typeOf val.store n schema).resultAt scope here = .ok found) : found = type := by
  obtain ⟨m, scope', hnode⟩ := (looksThrough_typeOf val.store).exists_of_endsAt hends h
  rw [typeOf_of_type hends.reference?_eq_none htype] at hnode
  exact (Except.ok.inj hnode).symm

/-- A text that is converted to a number is read as a double. -/
lemma convert_number_of_endsAt (hends : val.store.EndsAt scope schema (.object fields))
    (htype : fields.lookup Keyword.type.name = some (.string "number"))
    (h : (convert val n schema (.string text)).resultAt scope here = .ok w) :
    ∃ x, readDouble text.toList = .ok x ∧ w = .number x := by
  obtain ⟨m, scope', hnode⟩ := (looksThrough_convert val (.string text)).exists_of_endsAt hends h
  rw [convert_of_type hends.reference?_eq_none htype] at hnode
  change (ofType.liftExcept (number text)).resultAt scope' here = .ok w at hnode
  unfold number at hnode
  split at hnode
  · rename_i x hx
    exact ⟨x, hx, (Except.ok.inj hnode).symm⟩
  · cases hnode

end Coercion

/-! ## Validation -/

namespace Validator

open Walk

variable {val : Validator} {scope : String} {here : List String} {n : Nat} {v schema : Value}
  {fields : Fields} {o : Outcome}

/-- Where the references of a schema end, a visit finds no violation only if no keyword does. -/
lemma exists_contribution_of_endsAt (hends : val.store.EndsAt scope schema (.object fields))
    (hv : v.isNull = false) (h : (val.visit n v schema).resultAt scope here = .ok o)
    (hviolations : o.violations = []) {k : Keyword} {value : Value}
    (hlookup : fields.lookup k.name = some value) :
    ∃ (follow : Follow) (visit : Visit) (scope' : String) (here' : List String) (c : Contribution),
      (k.contribution val follow visit fields v value).resultAt scope' here' = .ok c ∧
        c.violations = [] := by
  obtain ⟨m, scope', here', o', ho', -, hiff⟩ := visit_of_endsAt hends h
  cases m with
  | zero => exact absurd ho' visit_zero_ne_ok
  | succ m =>
    have hsteadies := val.visit_steadies m
    obtain ⟨fields', ⟨⟩, hsettled⟩ := visitNode_settled hsteadies.follow hsteadies.visit ho'
    -- What stands under `$ref` is no text, so nothing may stand there.
    have href : fields.lookup Keyword.ref.name = none := by
      by_contra hne
      obtain ⟨value, hvalue⟩ := Option.ne_none_iff_exists'.1 hne
      obtain ⟨c, hc⟩ := hsettled.answered .ref value ⟨hvalue, Or.inl rfl⟩
      obtain ⟨reference, _, rfl, -⟩ := (Applicator.ref_ok_iff hsteadies.follow).1 hc
      have hreference := hends.reference?_eq_none
      simp [reference?, Value.get?, hvalue, Value.string?] at hreference
    have hforce : k.InForce fields v value := ⟨hlookup, Or.inr ⟨href, by simp [hv]⟩⟩
    obtain ⟨c, hc⟩ := hsettled.answered k value hforce
    have hnil := hsettled.violations_eq_nil_iff.1 (hiff.2 hviolations) k value c hforce hc
    exact ⟨_, _, _, _, c, hc, hnil⟩

/-- A valid number passes the tests of its bounds. -/
lemma passes_of_validate {x : Float} {least greatest : Value} {out : Validated}
    (hends : val.store.EndsAt val.store.baseUri schema (.object fields))
    (hrange : DeclaresRange fields least greatest)
    (h : val.validate (.number x) schema = .ok out) :
    Passes .lt (isExclusive "exclusiveMinimum" fields) (.number x) least ∧
      Passes .gt (isExclusive "exclusiveMaximum" fields) (.number x) greatest := by
  obtain ⟨o, ho, hviolations, -⟩ := validate_eq_ok_iff.1 h
  constructor
  · obtain ⟨_, _, _, _, c, hc, hnil⟩ :=
      exists_contribution_of_endsAt hends rfl ho hviolations hrange.minimum
    exact (Keyword.constraint_holds (.minimum fields _ least) hc
      fun _ => Constraint.minimum_ok).1 hnil rfl
  · obtain ⟨_, _, _, _, c, hc, hnil⟩ :=
      exists_contribution_of_endsAt hends rfl ho hviolations hrange.maximum
    exact (Keyword.constraint_holds (.maximum fields _ greatest) hc
      fun _ => Constraint.maximum_ok).1 hnil rfl

end Validator

/-! ## Parameters -/

namespace Parameter

variable {val : Validator} {p : Parameter} {source : Source} {schema v w : Value} {fields : Fields}
  {type text : String}

/-- The text of a value without parts is not taken apart. -/
lemma decode_primitive (htype : isPrimitive type = true)
    (h : p.decode type (.string text) = .ok v) : v = .string text := by
  obtain ⟨strategy, hstrategy, h⟩ := Except.bind_eq_ok_iff.1 h
  obtain rfl : strategy = .passThrough := by
    unfold Strategy.choose at hstrategy
    rw [if_pos htype] at hstrategy
    split at hstrategy <;> simp_all [Except.mapError]
  exact (Except.ok.inj h).symm

/-- A text that is accepted for a value without parts has been converted and validated. -/
lemma exists_of_check_text (hp : p.schema = some schema)
    (hends : val.store.EndsAt val.store.baseUri schema (.object fields))
    (htype : fields.lookup Keyword.type.name = some (.string type))
    (hprimitive : isPrimitive type = true)
    (hfind : p.find val type source = .ok (.raw (.string text)))
    (h : p.check val source = .ok (some v)) :
    ∃ u out, val.run (val.coerced schema (.string text)) = .ok u ∧
      val.validate u schema = .ok out ∧ out.value = v := by
  obtain ⟨-, -, found, result, hfound, hresult, hread⟩ := check_eq_some_iff.1 h
  obtain rfl : found = type := by
    rw [declaredType, hp] at hfound
    have hrun : val.run (val.declaredType schema) = .ok found := Except.mapError_eq_ok_iff.1 hfound
    rw [Walk.run_eq_resultAt, Validator.declaredType] at hrun
    exact Coercion.typeOf_of_endsAt hends htype hrun
  obtain rfl := Except.ok.inj (hfind.symm.trans hresult)
  obtain ⟨_, decoded, ⟨⟩, hdecode, htyped⟩ := hread.resolve_left (by simp)
  obtain rfl := decode_primitive hprimitive hdecode
  exact (typed_eq_ok_iff hp).1 htyped

/-- **Bounds of number parameters**: let the references of the schema of a parameter end in one
that declares a number between two bounds.  If a request carries a text for the parameter and it
is accepted, then the value is the double that is read from the text.  It lies within both bounds
exactly if the text does not spell what is no number; a text that does is accepted only if no
bound is exclusive. -/
theorem check_isWithin_iff {least greatest : Value} (hformats : val.formats.ReadTexts)
    (hp : p.schema = some schema)
    (hends : val.store.EndsAt val.store.baseUri schema (.object fields))
    (hrange : DeclaresRange fields least greatest)
    (hfind : p.find val "number" source = .ok (.raw (.string text)))
    (h : p.check val source = .ok (some v)) :
    ∃ x, readDouble text.toList = .ok x ∧ v = .number x ∧
      (IsWithin .lt (isExclusive "exclusiveMinimum" fields) v least ∧
          IsWithin .gt (isExclusive "exclusiveMaximum" fields) v greatest ↔
        ¬ SpellsNaN text.toList) ∧
      (SpellsNaN text.toList → isExclusive "exclusiveMinimum" fields = false ∧
        isExclusive "exclusiveMaximum" fields = false) := by
  obtain ⟨u, out, hcoerced, hvalid, rfl⟩ :=
    exists_of_check_text hp hends hrange.type rfl hfind h
  rw [Walk.run_eq_resultAt, Validator.coerced] at hcoerced
  obtain ⟨x, hread, rfl⟩ := Coercion.convert_number_of_endsAt hends hrange.type hcoerced
  have hnumber : IsNumber x ↔ ¬ SpellsNaN text.toList := isNumber_of_readDouble_iff hread
  -- Formats read texts alone, so validation gives the number back.
  have hvalue : out.value = .number x :=
    Validator.validate_refines hformats rfl hvalid
  obtain ⟨hleast, hgreatest⟩ := Validator.passes_of_validate hends hrange hvalid
  have hleast_none := Constraint.compare?_eq_none_iff (x := x) hrange.least
  have hgreatest_none := Constraint.compare?_eq_none_iff (x := x) hrange.greatest
  refine ⟨x, hread, hvalue, ?_, fun hnan => ?_⟩
  · rw [hvalue, hleast.isWithin_iff (by decide), hgreatest.isWithin_iff (by decide), ← hnumber,
      Ne, Ne, hleast_none, hgreatest_none, not_not, and_self]
  · have hnot : ¬ IsNumber x := fun hx => hnumber.1 hx hnan
    exact ⟨hleast.exclusive_eq_false (hleast_none.2 hnot),
      hgreatest.exclusive_eq_false (hgreatest_none.2 hnot)⟩

end Parameter

namespace Gauge

/-- The fields of a schema for numbers from zero to ten, zero excluded or not. -/
def fields (exclusive : Bool) : Fields := [
  ("type", .string "number"), ("minimum", .integer 0), ("exclusiveMinimum", .bool exclusive),
  ("maximum", .integer 10)]

/-- A validator for a document that defines levels. -/
def validator (exclusive : Bool) : Validator :=
  Dialect.oas3.validator
    (.ofRoot "" (.object [("definitions", .object [("level", .object (fields exclusive))])]))

/-- A reference to the definition. -/
def reference : Value := .object [("$ref", .string "#/definitions/level")]

/-- A level in a query. -/
def parameter : Parameter := ⟨"level", .query, .form, true, true, false, some reference⟩

/-- A request with a level. -/
def source (text : String) : Source := ⟨[], [("level", [text])], {}⟩

end Gauge

namespace Parameter

/-- A level above zero that is given by a decimal keeps to its bounds. -/
theorem decimal_isWithin :
    ∃ v, Gauge.parameter.check (Gauge.validator true) (Gauge.source "2.5") = .ok (some v) ∧
      IsWithin .lt true v (.integer 0) ∧ IsWithin .gt false v (.integer 10) := by
  have hends : (Gauge.validator true).store.EndsAt (Gauge.validator true).store.baseUri
      Gauge.reference (.object (Gauge.fields true)) := .jump rfl rfl rfl (.here rfl)
  have hrange : DeclaresRange (Gauge.fields true) (.integer 0) (.integer 10) :=
    ⟨rfl, rfl, rfl, ⟨_, rfl, Number.isNumber_ofInteger _⟩, ⟨_, rfl, Number.isNumber_ofInteger _⟩⟩
  obtain ⟨v, hv⟩ : ∃ v, Gauge.parameter.check (Gauge.validator true) (Gauge.source "2.5") =
      .ok (some v) := ⟨_, rfl⟩
  have hnumber : ¬ SpellsNaN "2.5".toList := by decide
  obtain ⟨x, -, -, hiff, -⟩ :=
    check_isWithin_iff Dialect.oas3.readTexts_formats rfl hends hrange rfl hv
  exact ⟨v, hv, hiff.2 hnumber⟩

/-- **What is no number is accepted** between inclusive bounds, to which it does not compare.  It
is refused if one of them is exclusive. -/
theorem nan_is_accepted :
    (Gauge.parameter.check (Gauge.validator false) (Gauge.source "NaN")).toOption.join.any
        (fun v => compare? v (.integer 0) = none ∧ compare? v (.integer 10) = none) ∧
      (Gauge.parameter.check (Gauge.validator true) (Gauge.source "NaN")).toOption = none := by
  decide

end Parameter

end ApiContract
