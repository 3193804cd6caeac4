/-
# The order in which parameters are declared

Parameters are checked one after another.  A failure that is not about the input ends the check at
once, whatever has been collected before; as long as there is none, the violations of every
parameter are collected.  So the order in which parameters with different names are declared does
not decide how a check ends, nor which violations or values it gives, but only their order.
-/
import ApiContract.Proofs.Parameter.Collection
import Mathlib.Data.List.Perm.Basic

namespace ApiContract.Parameters

variable {val : Validator} {source : Source} {p : Parameter} {ps qs declared : List Parameter}
  {values : List (String × Value)}

/-! ## Declaring -/

lemma add_eq_append (h : ∀ q ∈ ps, clash q p = false) : add p ps = ps ++ [p] := by
  induction ps with
  | nil => rfl
  | cons q ps ih =>
    obtain ⟨hq, hps⟩ := List.forall_mem_cons.1 h
    rw [clash_eq_false_iff] at hq
    rw [add, if_neg, ih hps, List.cons_append]
    rw [Bool.not_eq_true, clash_eq_false_iff]
    exact hq.imp Ne.symm Ne.symm

/-- Parameters with different names are all kept, in the order in which they are declared. -/
lemma ofList_eq_self (hnames : (declared.map Parameter.name).Nodup) :
    ofList declared = declared := by
  induction declared using List.reverseRecOn with
  | nil => rfl
  | append_singleton declared p ih =>
    rw [List.map_append, List.nodup_append] at hnames
    obtain ⟨hnodup, -, hdisjoint⟩ := hnames
    rw [ofList_append_singleton, ih hnodup]
    refine add_eq_append fun q hq => clash_eq_false_iff.2 (Or.inr ?_)
    exact hdisjoint _ (List.mem_map_of_mem hq) _ (by simp)

lemma nodup_keys_present (hnames : (declared.map Parameter.name).Nodup) :
    (Fields.keys (present val source declared)).Nodup := by
  rw [keys_present]
  exact hnames.sublist (List.filter_sublist.map _)

/-! ## Ends -/

/-- Two checks end alike: both with a failure that is not about the input, or both with the same
violations, or both with the same values, in any order. -/
inductive EndsAlike : Except Failure (List (String × Value)) →
    Except Failure (List (String × Value)) → Prop
  /-- Both break. -/
  | broken {failure failure' : Failure} : failure.IsFatal → failure'.IsFatal →
      EndsAlike (.error failure) (.error failure')
  /-- Both report the same violations. -/
  | invalid {violations violations' : Violations} : violations.toList.Perm violations'.toList →
      EndsAlike (.error (.invalid violations)) (.error (.invalid violations'))
  /-- Both give the same values. -/
  | passed {values values' : List (String × Value)} : values.Perm values' →
      EndsAlike (.ok values) (.ok values')

/-- Checks of the same parameters in two orders end alike. -/
lemma Verdict.endsAlike {r r' : Except Failure (List (String × Value))}
    (h : Verdict val source ps r) (h' : Verdict val source qs r') (hperm : ps.Perm qs)
    (hnames : (ps.map Parameter.name).Nodup) : EndsAlike r r' := by
  have hnames' : (qs.map Parameter.name).Nodup := (hperm.map _).nodup_iff.1 hnames
  by_cases hbreaks : ∃ p ∈ ps, Breaks val source p
  · obtain ⟨failure, rfl, hfatal⟩ := h.broken_iff.2 hbreaks
    obtain ⟨failure', rfl, hfatal'⟩ := h'.broken_iff.2 (by simpa only [hperm.mem_iff] using hbreaks)
    exact .broken hfatal hfatal'
  have hbreaks' : ¬ ∃ q ∈ qs, Breaks val source q := by simpa only [hperm.mem_iff] using hbreaks
  by_cases hinvalid : ∃ p ∈ ps, IsInvalid val source p
  · obtain ⟨violations, rfl⟩ := (h.invalid_iff hbreaks).2 hinvalid
    obtain ⟨violations', rfl⟩ :=
      (h'.invalid_iff hbreaks').2 (by simpa only [hperm.mem_iff] using hinvalid)
    refine .invalid ?_
    rw [h.toList_eq, h'.toList_eq]
    exact hperm.flatMap_right _
  · obtain rfl := h.eq_ok hbreaks hinvalid
    obtain rfl := h'.eq_ok hbreaks' (by simpa only [hperm.mem_iff] using hinvalid)
    rw [Fields.ofPairs_of_nodup (nodup_keys_present hnames),
      Fields.ofPairs_of_nodup (nodup_keys_present hnames')]
    exact .passed (hperm.filterMap _)

/-- **The order of declaration does not matter.**  Let parameters have different names.  A check of
them breaks exactly if that of one of them does.  Otherwise it is invalid exactly if one of them is,
and then it reports the violations of all of them, in the order in which they are declared; if none
is invalid, it gives the values of all that are there.  So if they are declared in another order,
the check ends alike. -/
theorem check_of_distinct_names (val : Validator) (source : Source)
    (hnames : (declared.map Parameter.name).Nodup) :
    ((∃ failure, (ofList declared).check val source = .error failure ∧ failure.IsFatal) ↔
      ∃ p ∈ declared, Breaks val source p) ∧
    ((¬ ∃ p ∈ declared, Breaks val source p) →
      ((∃ violations, (ofList declared).check val source = .error (.invalid violations)) ↔
        ∃ p ∈ declared, IsInvalid val source p) ∧
      (∀ violations, (ofList declared).check val source = .error (.invalid violations) →
        violations.toList = declared.flatMap (violationsBy val source)) ∧
      ((¬ ∃ p ∈ declared, IsInvalid val source p) →
        (ofList declared).check val source = .ok (present val source declared))) ∧
    ∀ declared', declared.Perm declared' →
      EndsAlike ((ofList declared).check val source) ((ofList declared').check val source) := by
  have hverdict := check_verdict val source declared
  rw [ofList_eq_self hnames]
  refine ⟨hverdict.broken_iff, fun hbreaks => ⟨hverdict.invalid_iff hbreaks, ?_, ?_⟩, ?_⟩
  · intro violations h
    exact (h ▸ hverdict).toList_eq
  · intro hinvalid
    rw [hverdict.eq_ok hbreaks hinvalid, Fields.ofPairs_of_nodup (nodup_keys_present hnames)]
  · intro declared' hperm
    rw [ofList_eq_self ((hperm.map _).nodup_iff.1 hnames)]
    exact hverdict.endsAlike (check_verdict val source declared') hperm hnames

/-! ### A listing with two faults -/

namespace Listing

/-- A parameter of a type in a query. -/
def inQuery (name type : String) (isRequired : Bool) : Parameter :=
  ⟨name, .query, .form, true, isRequired, false, some (.object [("type", .string type)])⟩

/-- A page that must be given, whether to give all, and a name to sort by. -/
def parameters : List Parameter :=
  [inQuery "page" "integer" true, inQuery "all" "boolean" false, inQuery "sort" "string" false]

/-- A request without a page, in which `all` is no truth value. -/
def sent : Source := ⟨[], [("all", ["maybe"]), ("sort", ["name"])], {}⟩

/-- The number of violations that a check of parameters reports. -/
def reported (result : Except Failure (List (String × Value))) : Nat :=
  match result with
  | .error (.invalid violations) => violations.toList.length
  | _ => 0

end Listing

open Listing

/-- Both faults are reported, in whatever order the parameters are declared. -/
theorem both_faults_are_reported :
    (parameters.map Parameter.name).Nodup ∧
      ∃ violations violations',
        (ofList parameters).check Dialect.oas3.alone sent = .error (.invalid violations) ∧
        (ofList parameters.reverse).check Dialect.oas3.alone sent = .error (.invalid violations') ∧
        violations.toList.length = 2 ∧ violations.toList.Perm violations'.toList := by
  have hnames : (parameters.map Parameter.name).Nodup := by decide
  obtain ⟨-, -, hperm⟩ := check_of_distinct_names Dialect.oas3.alone sent hnames
  have hcount : reported ((ofList parameters).check Dialect.oas3.alone sent) = 2 := by decide
  refine ⟨hnames, ?_⟩
  unfold reported at hcount
  split at hcount
  · rename_i violations hcheck
    have hends := hperm parameters.reverse parameters.reverse_perm.symm
    rw [hcheck] at hends
    generalize (ofList parameters.reverse).check Dialect.oas3.alone sent = r at hends
    cases hends with
    | broken hfatal _ => exact absurd rfl (hfatal violations)
    | @invalid _ violations' h => exact ⟨violations, violations', hcheck, rfl, hcount, h⟩
  · cases hcount

end ApiContract.Parameters
