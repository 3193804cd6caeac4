/-
# Constraints, formats and the order of keys

Whether a value keeps a constraint does not depend on the order of the keys in the value and in
the schema; the wording of the message may.  The formats of the dialects do not look into objects
at all.
-/
import ApiContract.Proofs.Schema.Format
import ApiContract.Proofs.Value.Reordering
import ApiContract.Schema.Constraint

namespace ApiContract

namespace Constraint

open Value

/-- Two constraints raise equally many messages, or they are broken in the same way. -/
def Messages.Like (m m' : Messages) : Prop :=
  m.map List.length = m'.map List.length

lemma expect_like {holds holds' : Bool} (h : holds = holds') (message message' : String) :
    (expect holds message).Like (expect holds' message') := by
  subst h
  cases holds <;> rfl

variable {v v' value value' : Value} {schema schema' : Fields}

/-! ## Types and alternatives -/

lemma hasType_eq (hv : v.Reordered v') (type : String) : hasType v type = hasType v' type :=
  hv.view_eq (hasType · type) (fun _ _ => rfl) (fun _ _ => rfl)

lemma hasSomeType_eq (hv : v.Reordered v') (types : List String) :
    hasSomeType v types = hasSomeType v' types := by
  induction types with
  | nil => rfl
  | cons type types ih => rw [hasSomeType, hasSomeType, hasType_eq hv, ih]

lemma typeNames_eq (hvalue : value.Reordered value') : typeNames value = typeNames value' := by
  cases hvalue.alike with
  | array hnames =>
    refine mapM_eq_of_forall₂ hnames fun name name' hname => ?_
    rw [hname.view_eq string? (fun _ _ => rfl) (fun _ _ => rfl)]
  | object => rfl
  | leaf => rfl

lemma type_like (hv : v.Reordered v') (hvalue : value.Reordered value') :
    (type v value).Like (type v' value') := by
  unfold type
  rw [typeNames_eq hvalue]
  cases typeNames value' with
  | error e => rfl
  | ok names =>
    change Messages.Like (hasSomeType v names >>= _) (hasSomeType v' names >>= _)
    rw [hasSomeType_eq hv]
    cases hasSomeType v' names with
    | error e => rfl
    | ok holds => exact expect_like rfl _ _

lemma enum_like (hv : v.Reordered v') (hvalue : value.Reordered value') :
    (enum v value).Like (enum v' value') := by
  cases hvalue.alike with
  | array hoptions =>
    exact expect_like (Rearranged.any_eq (.of_forall₂ hoptions) fun _ _ hoption =>
      hoption.beq_eq hv) _ _
  | object => rfl
  | leaf hleaf => cases value <;> first | rfl | simp [isContainer] at hleaf

/-! ## Sizes -/

lemma bound_eq (hvalue : value.Reordered value') (k : Keyword) :
    bound k value = bound k value' :=
  hvalue.view_eq (bound k) (fun _ _ => rfl) (fun _ _ => rfl)

section

variable {size size' : Option Nat} (hsize : size = size') (hvalue : value.Reordered value')
  (k : Keyword) (message message' : String)

include hsize hvalue

lemma atLeast_like :
    (atLeast k size value message).Like (atLeast k size' value' message') := by
  unfold atLeast
  rw [bound_eq hvalue, hsize]
  cases bound k value' with
  | error e => rfl
  | ok n => exact expect_like rfl _ _

lemma atMost_like :
    (atMost k size value message).Like (atMost k size' value' message') := by
  unfold atMost
  rw [bound_eq hvalue, hsize]
  cases bound k value' with
  | error e => rfl
  | ok n => exact expect_like rfl _ _

end

lemma characters_eq (hv : v.Reordered v') : characters v = characters v' :=
  hv.view_eq characters (fun _ _ => rfl) (fun _ _ => rfl)

lemma itemCount_eq (hv : v.Reordered v') : itemCount v = itemCount v' := by
  cases hv.alike with
  | array hitems => exact congrArg some hitems.length_eq
  | object => rfl
  | leaf => rfl

lemma fieldCount_eq (hv : v.Reordered v') : fieldCount v = fieldCount v' := by
  cases hv.alike with
  | array => rfl
  | object _ hfields => exact congrArg some hfields.length_eq
  | leaf => rfl

/-! ## Numbers -/

lemma isExclusive_eq (hschema : (object schema).Reordered (object schema')) (flag : String) :
    isExclusive flag schema = isExclusive flag schema' := by
  rw [isExclusive, isExclusive, hschema.lookup_bind_eq bool? (fun _ _ => rfl) (fun _ _ => rfl)]

lemma eq_of_isNumber (hv : v.Reordered v') (hnumber : v.isNumber) : v' = v :=
  hv.eq_of_leaf (by cases v <;> simp_all [isNumber, isContainer])

/-- What is only said about a number and a bound that is one does not see the order of keys. -/
lemma bounded_like (hv : v.Reordered v') (hvalue : value.Reordered value') {e : SchemaError}
    {compared compared' : Messages} (h : value' = value → v' = v → compared = compared') :
    Messages.Like
      (if !value.isNumber then .error e else if !v.isNumber then .ok [] else compared)
      (if !value'.isNumber then .error e else if !v'.isNumber then .ok [] else compared') := by
  rw [← hvalue.view_eq isNumber (fun _ _ => rfl) (fun _ _ => rfl),
    ← hv.view_eq isNumber (fun _ _ => rfl) (fun _ _ => rfl)]
  split
  · rfl
  · rename_i hbound
    split
    · rfl
    · rename_i hnumber
      rw [h (eq_of_isNumber hvalue (by simpa using hbound))
        (eq_of_isNumber hv (by simpa using hnumber))]
      rfl

lemma minimum_like (hschema : (object schema).Reordered (object schema'))
    (hv : v.Reordered v') (hvalue : value.Reordered value') :
    (minimum schema v value).Like (minimum schema' v' value') := by
  refine bounded_like hv hvalue ?_
  rintro rfl rfl
  rw [isExclusive_eq hschema]

lemma maximum_like (hschema : (object schema).Reordered (object schema'))
    (hv : v.Reordered v') (hvalue : value.Reordered value') :
    (maximum schema v value).Like (maximum schema' v' value') := by
  refine bounded_like hv hvalue ?_
  rintro rfl rfl
  rw [isExclusive_eq hschema]

lemma isMultiple_eq (hv : v.Reordered v') (divisor : Value) :
    isMultiple v divisor = isMultiple v' divisor :=
  hv.view_eq (isMultiple · divisor) (fun _ _ => by cases divisor <;> rfl)
    (fun _ _ => by cases divisor <;> rfl)

lemma multipleOf_like (hv : v.Reordered v') (hvalue : value.Reordered value') :
    (multipleOf v value).Like (multipleOf v' value') := by
  cases hvalue.alike with
  | array => rfl
  | object => rfl
  | leaf =>
    unfold multipleOf
    split
    · rfl
    · split
      · rfl
      · exact expect_like (isMultiple_eq hv value) _ _

/-! ## Arrays and objects -/

lemma areDistinct_eq {items items' : List Value} (h : List.Forall₂ Reordered items items') :
    areDistinct items = areDistinct items' := by
  induction h with
  | nil => rfl
  | cons hv hitems ih =>
    rw [areDistinct, areDistinct, ih,
      Rearranged.any_eq (.of_forall₂ hitems) fun _ _ hw => hw.beq_eq hv]

lemma uniqueItems_like (hv : v.Reordered v') (hvalue : value.Reordered value') :
    (uniqueItems v value).Like (uniqueItems v' value') := by
  have hdistinct : v.array?.all areDistinct = v'.array?.all areDistinct := by
    cases hv.alike with
    | array hitems => exact areDistinct_eq hitems
    | object => rfl
    | leaf => rfl
  cases hvalue.alike with
  | array => rfl
  | object => rfl
  | leaf =>
    unfold uniqueItems
    split
    · exact expect_like (by rw [hdistinct]) _ _
    · rfl

lemma has_eq {fields fields' : Fields} (h : (object fields).Reordered (object fields'))
    (name : String) : Fields.has name fields = Fields.has name fields' := by
  rw [Fields.has, Fields.has, Bool.eq_iff_iff, Option.isSome_iff_ne_none,
    Option.isSome_iff_ne_none, ne_eq, h.lookup_eq_none_iff]

lemma required_like (hv : v.Reordered v') (hvalue : value.Reordered value') :
    (required v value).Like (required v' value') := by
  cases hvalue.alike with
  | @array names names' hnames =>
    cases hv.alike with
    | array => rfl
    | object =>
      have htexts := mapM_eq_of_forall₂ (m := Except SchemaError)
        (f := fun name => name.string?.elim
          (.error (malformed .required "an array of strings")) .ok)
        hnames fun _ _ hname => by rw [hname.view_eq string? (fun _ _ => rfl) (fun _ _ => rfl)]
      simp only [required, htexts, has_eq hv]
      rfl
    | leaf hleaf => cases v <;> first | rfl | simp [isContainer] at hleaf
  | object => rfl
  | leaf hleaf => cases value <;> first | rfl | simp [isContainer] at hleaf

end Constraint

/-! ## Formats -/

/-- A check whose verdict does not depend on the order of keys. -/
def FormatCheck.IgnoresOrder (check : FormatCheck) : Prop :=
  ∀ v v', v.Reordered v' → (check v).isOk = (check v').isOk

/-- Formats whose verdicts do not depend on the order of keys. -/
def Formats.IgnoreOrder (formats : Formats) : Prop :=
  ∀ name, FormatCheck.IgnoresOrder (formats.check name)

/-- A check that is only about leaves does not see the order of keys. -/
lemma FormatCheck.ignoresOrder_of_leaves {check : FormatCheck}
    (harray : ∀ items, check (.array items) = .ok none)
    (hobject : ∀ fields, check (.object fields) = .ok none) : check.IgnoresOrder :=
  fun _ _ hv => congrArg Except.isOk (hv.view_eq check (fun _ _ => by rw [harray, harray])
    (fun _ _ => by rw [hobject, hobject]))

lemma Formats.ignoreOrder_of_checks {formats : Formats}
    (h : ∀ entry ∈ formats.checks, entry.2.IgnoresOrder) : formats.IgnoreOrder := by
  intro name v v' hv
  unfold check
  cases hlookup : formats.checks.lookup name with
  | some check => exact h _ (Fields.mem_of_lookup hlookup) v v' hv
  | none => rfl

/-- **Dialects ignore the order of keys**: no format of a dialect sees it. -/
theorem Dialect.ignoreOrder_formats (dialect : Dialect) : dialect.formats.IgnoreOrder := by
  have hchecks : ∀ entry ∈ Formats.oas3.checks, entry.2.IgnoresOrder := by
    intro entry hentry
    simp only [Formats.oas3, Formats.draft5, Formats.draft4, List.mem_append, List.mem_cons,
      List.not_mem_nil, or_false] at hentry
    rcases hentry with ((rfl | rfl | rfl | rfl | rfl | rfl) | rfl | rfl) | rfl | rfl | rfl | rfl <;>
      exact FormatCheck.ignoresOrder_of_leaves (fun _ => rfl) (fun _ => rfl)
  exact Formats.ignoreOrder_of_checks fun entry hentry =>
    hchecks entry (dialect.checks_subset hentry)

end ApiContract
