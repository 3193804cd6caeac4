/-
# The stages of a check

A parameter that can be checked at all is looked for, and what is found of it is taken apart,
converted and validated.  A parameter that the request carries is found.
-/
import ApiContract.Parameter.Basic
import Mathlib.Tactic.Lemma

namespace ApiContract.Parameter

variable {p : Parameter} {val : Validator} {source : Source} {type : String} {failure : Failure}

/-! ## Looking -/

/-- A parameter that is looked for: it can be checked and its type is known. -/
structure Sought (p : Parameter) (val : Validator) (type : String) : Prop where
  /-- It may not be empty. -/
  plain : p.allowsEmpty = false
  /-- Its style is supported. -/
  supported : p.style.isSupported = true
  /-- Its type. -/
  type : p.declaredType val = .ok type

/-- What is found of a parameter that is looked for is taken apart, converted and validated. -/
lemma Sought.check_of_raw {raw : Value} (h : p.Sought val type)
    (hfind : p.find val type source = .ok (.raw raw)) :
    p.check val source = (p.decode type raw >>= p.typed val).map some := by
  simp only [check, h.plain, h.supported, h.type, hfind, Bool.false_eq_true, if_false,
    Bool.not_true, bind, Except.bind]
  cases p.decode type raw with
  | error failure => rfl
  | ok v => cases p.typed val v <;> rfl

lemma Sought.check_of_default {v : Value} (h : p.Sought val type)
    (hfind : p.find val type source = .ok (.default v)) : p.check val source = .ok (some v) := by
  simp only [check, h.plain, h.supported, h.type, hfind, Bool.false_eq_true, if_false,
    Bool.not_true, bind, Except.bind]
  rfl

/-- The violation by a request that lacks a parameter. -/
def absence (p : Parameter) : Violation :=
  .ofMessage s!"required parameter \"{p.name}\" is not found in {p.location.name}"

lemma Sought.check_of_absent (h : p.Sought val type)
    (hfind : p.find val type source = .ok .absent) :
    p.check val source =
      if p.isRequired then .error (.ofViolation p.absence) else .ok none := by
  simp only [check, h.plain, h.supported, h.type, hfind, Bool.false_eq_true, if_false,
    Bool.not_true, bind, Except.bind]
  rfl

lemma Sought.check_of_error (h : p.Sought val type)
    (hfind : p.find val type source = .error failure) : p.check val source = .error failure := by
  simp only [check, h.plain, h.supported, h.type, hfind, Bool.false_eq_true, if_false,
    Bool.not_true, bind, Except.bind]

/-- What the search for a parameter leads to if the check passes. -/
inductive Settles (p : Parameter) (val : Validator) (source : Source) (type : String) :
    Option Value → Prop where
  /-- There is a default. -/
  | default {v : Value} (found : p.find val type source = .ok (.default v)) :
      Settles p val source type (some v)
  /-- What is found is taken apart, converted and validated. -/
  | raw {raw v w : Value} (found : p.find val type source = .ok (.raw raw))
      (decoded : p.decode type raw = .ok v) (typed : p.typed val v = .ok w) :
      Settles p val source type (some w)
  /-- There is nothing, and there may be nothing. -/
  | absent (found : p.find val type source = .ok .absent) (optional : p.isRequired = false) :
      Settles p val source type none

/-- A check that passes has looked for the parameter. -/
lemma settles_of_check {result : Option Value} (h : p.check val source = .ok result) :
    ∃ type, p.Sought val type ∧ p.Settles val source type result := by
  by_cases hplain : p.allowsEmpty
  · simp only [check, hplain, if_true] at h
    cases h
  rw [Bool.not_eq_true] at hplain
  by_cases hsupported : p.style.isSupported = false
  · simp only [check, hplain, hsupported, Bool.false_eq_true, if_false, Bool.not_false,
      if_true] at h
    cases h
  rw [Bool.not_eq_false] at hsupported
  rcases htype : p.declaredType val with failure | type
  · simp only [check, hplain, hsupported, htype, Bool.false_eq_true, if_false, Bool.not_true, bind,
      Except.bind] at h
    cases h
  have hsought : p.Sought val type := ⟨hplain, hsupported, htype⟩
  refine ⟨type, hsought, ?_⟩
  rcases hfind : p.find val type source with failure | found
  · rw [hsought.check_of_error hfind] at h
    cases h
  cases found with
  | default v =>
    rw [hsought.check_of_default hfind] at h
    obtain rfl := Except.ok.inj h
    exact .default hfind
  | absent =>
    rw [hsought.check_of_absent hfind] at h
    split at h
    · cases h
    · rename_i hoptional
      obtain rfl := Except.ok.inj h
      exact .absent hfind (by simpa using hoptional)
  | raw raw =>
    rw [hsought.check_of_raw hfind] at h
    rcases hdecode : p.decode type raw with failure | v
    · rw [hdecode] at h
      cases h
    rcases htyped : p.typed val v with failure | w
    · simp only [hdecode, htyped, bind, Except.bind, Except.map] at h
      cases h
    · simp only [hdecode, htyped, bind, Except.bind, Except.map, Except.ok.injEq] at h
      obtain rfl := h
      exact .raw hfind hdecode htyped

/-- A parameter that must be there and passes has a value. -/
lemma exists_eq_some_of_isRequired (hrequired : p.isRequired = true) {result : Option Value}
    (h : p.check val source = .ok result) : ∃ v, result = some v := by
  obtain ⟨type, -, hsettles⟩ := settles_of_check h
  cases hsettles with
  | default found => exact ⟨_, rfl⟩
  | raw found decoded typed => exact ⟨_, rfl⟩
  | absent found optional => simp [hrequired] at optional

/-! ## Finding -/

/-- A request carries a parameter: the text of it is there, or fields that make it up. -/
def IsCarried (p : Parameter) (source : Source) : Prop :=
  match p.location with
  | .path => ∃ text, source.path.lookup p.name = some text
  | .query =>
    if p.style = .deepObject then ∃ v, source.query.deepObject? p.name = some v
    else ∃ text texts, source.query.lookup p.name = some (text :: texts)
  | .header => ∃ text, source.request.header? p.name = some text
  | .cookie => False

/-- If looking for a parameter that is carried does not fail, then it is found. -/
lemma IsCarried.find_eq (h : p.IsCarried source) {found : Found}
    (hfind : p.find val type source = .ok found) : ∃ raw, found = .raw raw := by
  rw [IsCarried] at h
  rw [find] at hfind
  split at h
  · rename_i hlocation
    obtain ⟨text, htext⟩ := h
    rw [hlocation, htext] at hfind
    exact ⟨_, (Except.ok.inj hfind).symm⟩
  · rename_i hlocation
    rw [hlocation] at hfind
    dsimp only at hfind
    rw [findInQuery] at hfind
    split at hfind
    · cases hfind
    split at h
    · rename_i hdeep
      obtain ⟨v, hv⟩ := h
      rw [if_pos hdeep, hv] at hfind
      exact ⟨_, (Except.ok.inj hfind).symm⟩
    · rename_i hflat
      obtain ⟨text, texts, htexts⟩ := h
      rw [if_neg hflat, htexts] at hfind
      dsimp only at hfind
      split at hfind
      · exact ⟨_, (Except.ok.inj hfind).symm⟩
      · exact ⟨_, (Except.ok.inj hfind).symm⟩
  · rename_i hlocation
    obtain ⟨text, htext⟩ := h
    rw [hlocation, htext] at hfind
    exact ⟨_, (Except.ok.inj hfind).symm⟩
  · exact h.elim

/-- A parameter that is carried and passes is taken apart, converted and validated. -/
lemma IsCarried.read (h : p.IsCarried source) {result : Option Value}
    (hcheck : p.check val source = .ok result) :
    ∃ type raw v w, p.declaredType val = .ok type ∧ p.find val type source = .ok (.raw raw) ∧
      p.decode type raw = .ok v ∧ p.typed val v = .ok w := by
  obtain ⟨type, hsought, hsettles⟩ := settles_of_check hcheck
  cases hsettles with
  | default found =>
    obtain ⟨raw, hraw⟩ := h.find_eq found
    cases hraw
  | raw found decoded typed => exact ⟨type, _, _, _, hsought.type, found, decoded, typed⟩
  | absent found optional =>
    obtain ⟨raw, hraw⟩ := h.find_eq found
    cases hraw

/-! ## Converting -/

/-- A value that does not convert is invalid, unless the schema is broken. -/
lemma coercionFailure_eq (p : Parameter) (error : CoercionError) :
    (∃ violations, p.coercionFailure error = .invalid violations) ∨
      ∃ e, error = .schema e ∧ p.coercionFailure error = .ofSchema e := by
  unfold coercionFailure
  split
  · exact Or.inr ⟨_, rfl, rfl⟩
  · exact Or.inl ⟨_, rfl⟩
  · exact Or.inl ⟨_, rfl⟩

end ApiContract.Parameter
