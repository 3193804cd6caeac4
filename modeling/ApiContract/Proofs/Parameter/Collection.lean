/-
# The values of all parameters

A check of parameters ends with the first failure that is not about the input, or with the
violations of all parameters, or with the values of those that are there (`Verdict`).

Parameters are told apart by location and name, their values by name alone.  So the values that a
check gives are those of the parameters that are there, where of several parameters with one name
the last one counts.  None is lost exactly if the parameters that are there and have one name have
one location.
-/
import ApiContract.Parameter.Set
import ApiContract.Proofs.Value.Pairs
import Mathlib.Data.List.Nodup
import Mathlib.Data.List.Pairwise

namespace ApiContract

/-- A failure that is not about the input. -/
def Failure.IsFatal (failure : Failure) : Prop :=
  ∀ violations, failure ≠ .invalid violations

namespace Parameters

variable {val : Validator} {source : Source} {p q : Parameter} {ps : Parameters} {v : Value}
  {values : List (String × Value)}

/-! ## Adding -/

/-- The parameters that are declared one after another. -/
def ofList (declared : List Parameter) : Parameters :=
  declared.foldl (fun ps p => ps.add p) []

lemma ofList_append_singleton (declared : List Parameter) (p : Parameter) :
    ofList (declared ++ [p]) = add p (ofList declared) := by
  rw [ofList, List.foldl_append]
  rfl

lemma clash_iff : clash p q = true ↔ p.location = q.location ∧ p.name = q.name := by
  simp [clash]

lemma clash_eq_false_iff :
    clash p q = false ↔ p.location ≠ q.location ∨ p.name ≠ q.name := by
  rw [← Bool.not_eq_true, clash_iff, not_and_or]

lemma mem_of_mem_add {r : Parameter} (h : r ∈ add p ps) : r = p ∨ r ∈ ps := by
  induction ps with
  | nil => exact Or.inl (List.mem_singleton.1 h)
  | cons q ps ih =>
    rw [add] at h
    split at h
    · exact (List.mem_cons.1 h).imp_right (List.mem_cons_of_mem q)
    · rcases List.mem_cons.1 h with rfl | h
      · exact Or.inr List.mem_cons_self
      · exact (ih h).imp_right (List.mem_cons_of_mem q)

/-- Parameters that are told apart stay so when one is added. -/
lemma pairwise_add (h : ps.Pairwise fun q r => clash q r = false) (p : Parameter) :
    (ps.add p).Pairwise fun q r => clash q r = false := by
  induction ps with
  | nil => simp [add]
  | cons q ps ih =>
    obtain ⟨hq, hps⟩ := List.pairwise_cons.1 h
    rw [add]
    split
    · -- The parameter stands in the place of one with its location and name.
      rename_i hclash
      obtain ⟨hlocation, hname⟩ := clash_iff.1 hclash
      refine List.pairwise_cons.2 ⟨fun r hr => ?_, hps⟩
      have hr := hq r hr
      rwa [clash_eq_false_iff, ← hlocation, ← hname, ← clash_eq_false_iff] at hr
    · rename_i hclash
      refine List.pairwise_cons.2 ⟨fun r hr => ?_, ih hps⟩
      rcases mem_of_mem_add hr with rfl | hr
      · rw [Bool.not_eq_true, clash_eq_false_iff] at hclash
        exact clash_eq_false_iff.2 (hclash.imp Ne.symm Ne.symm)
      · exact hq r hr

/-- No two parameters have the same location and name. -/
lemma pairwise_ofList (declared : List Parameter) :
    (ofList declared).Pairwise fun q r => clash q r = false := by
  suffices ∀ ps : Parameters, ps.Pairwise (fun q r => clash q r = false) →
      (declared.foldl (fun ps p => ps.add p) ps).Pairwise fun q r => clash q r = false by
    exact this [] .nil
  induction declared with
  | nil => exact fun _ h => h
  | cons p declared ih => exact fun ps h => ih _ (pairwise_add h p)

/-! ## Single parameters -/

/-- The check of a parameter fails, and not because of the input. -/
def Breaks (val : Validator) (source : Source) (p : Parameter) : Prop :=
  ∃ failure, p.check val source = .error failure ∧ failure.IsFatal

/-- The check of a parameter finds violations. -/
def IsInvalid (val : Validator) (source : Source) (p : Parameter) : Prop :=
  ∃ violations, p.check val source = .error (.invalid violations)

/-- The violations that the check of a parameter finds. -/
def violationsBy (val : Validator) (source : Source) (p : Parameter) : List Violation :=
  match p.check val source with
  | .error (.invalid violations) => violations.toList
  | _ => []

lemma violationsBy_eq_nil_iff : violationsBy val source p = [] ↔ ¬ IsInvalid val source p := by
  rw [violationsBy, IsInvalid]
  split
  · rename_i violations hcheck
    simp [hcheck, violations.ne_nil]
  · rename_i hother
    simpa using hother

lemma exists_eq_ok (hbreaks : ¬ Breaks val source p) (hinvalid : ¬ IsInvalid val source p) :
    ∃ found, p.check val source = .ok found := by
  cases hcheck : p.check val source with
  | ok found => exact ⟨found, rfl⟩
  | error failure =>
    refine absurd ⟨failure, hcheck, fun violations heq => ?_⟩ hbreaks
    exact hinvalid ⟨violations, heq ▸ hcheck⟩

/-! ## Collecting -/

/-- The value of a parameter, if the parameter is there. -/
def value? (val : Validator) (source : Source) (p : Parameter) : Option Value :=
  (p.check val source).toOption.join

lemma value?_eq_some_iff : value? val source p = some v ↔ p.check val source = .ok (some v) := by
  rw [value?]
  rcases p.check val source with failure | ⟨_ | w⟩ <;> simp [Except.toOption]

/-- The values of the parameters that are there, with their names. -/
def present (val : Validator) (source : Source) (ps : Parameters) : List (String × Value) :=
  ps.filterMap fun p => (value? val source p).map fun v => (p.name, v)

lemma mem_present_iff {name : String} :
    (name, v) ∈ present val source ps ↔
      ∃ p ∈ ps, p.name = name ∧ p.check val source = .ok (some v) := by
  rw [present, List.mem_filterMap]
  simp [value?_eq_some_iff, Option.map_eq_some_iff, and_comm]

/-- What a collection leads to: the first failure that is not about the input, or else all values
and all violations. -/
lemma collect_cases (val : Validator) (source : Source) (ps : Parameters)
    (before : List (String × Value)) (violations : List Violation) :
    (∃ p ∈ ps, ∃ failure, p.check val source = .error failure ∧ failure.IsFatal ∧
      collect val source ps before violations = .error failure) ∨
    (∀ p ∈ ps, ¬ Breaks val source p) ∧
      collect val source ps before violations =
        .ok ((present val source ps).foldl (fun fields (k, v) => Fields.insert k v fields) before,
          violations ++ ps.flatMap (violationsBy val source)) := by
  induction ps generalizing before violations with
  | nil => simp [collect, present]
  | cons p ps ih =>
    rw [List.exists_mem_cons_iff, List.forall_mem_cons, collect, List.flatMap_cons]
    split
    · rename_i v hcheck
      have hpresent : present val source (p :: ps) = (p.name, v) :: present val source ps :=
        List.filterMap_cons_some (by simp [value?, hcheck, Except.toOption])
      simpa [hcheck, hpresent, Breaks, violationsBy] using
        ih (Fields.insert p.name v before) violations
    · rename_i hcheck
      have hpresent : present val source (p :: ps) = present val source ps :=
        List.filterMap_cons_none (by simp [value?, hcheck, Except.toOption])
      simpa [hcheck, hpresent, Breaks, violationsBy] using ih before violations
    · rename_i more hcheck
      have hpresent : present val source (p :: ps) = present val source ps :=
        List.filterMap_cons_none (by simp [value?, hcheck, Except.toOption])
      simpa [hcheck, hpresent, Breaks, violationsBy, Failure.IsFatal] using
        ih before (violations ++ more.toList)
    · rename_i failure hother hcheck
      exact Or.inl (Or.inl ⟨failure, hcheck, hother, rfl⟩)

/-- How a check of parameters ends. -/
inductive Verdict (val : Validator) (source : Source) (ps : Parameters) :
    Except Failure (List (String × Value)) → Prop
  /-- A parameter breaks the check. -/
  | broken {p : Parameter} {failure : Failure} : p ∈ ps → p.check val source = .error failure →
      failure.IsFatal → Verdict val source ps (.error failure)
  /-- No parameter breaks the check, and the violations of all of them are reported. -/
  | invalid {violations : Violations} : (∀ p ∈ ps, ¬ Breaks val source p) →
      violations.toList = ps.flatMap (violationsBy val source) →
      Verdict val source ps (.error (.invalid violations))
  /-- Every parameter passes, and the values of those that are there are set one after another. -/
  | passed : (∀ p ∈ ps, ¬ Breaks val source p) → (∀ p ∈ ps, ¬ IsInvalid val source p) →
      Verdict val source ps (.ok (Fields.ofPairs (present val source ps)))

theorem check_verdict (val : Validator) (source : Source) (ps : Parameters) :
    Verdict val source ps (ps.check val source) := by
  rcases collect_cases val source ps [] [] with
    ⟨p, hp, failure, hcheck, hfatal, hcollect⟩ | ⟨hbreaks, hcollect⟩
  · rw [check, hcollect]
    exact .broken hp hcheck hfatal
  · rw [List.nil_append] at hcollect
    cases hviolations : ps.flatMap (violationsBy val source) with
    | nil =>
      rw [check, hcollect, hviolations]
      refine .passed hbreaks fun p hp => ?_
      exact violationsBy_eq_nil_iff.1 (List.flatMap_eq_nil_iff.1 hviolations p hp)
    | cons violation violations =>
      rw [check, hcollect, hviolations]
      exact .invalid hbreaks hviolations.symm

namespace Verdict

variable {r : Except Failure (List (String × Value))}

/-- A check breaks exactly if that of a parameter does. -/
lemma broken_iff (h : Verdict val source ps r) :
    (∃ failure, r = .error failure ∧ failure.IsFatal) ↔ ∃ p ∈ ps, Breaks val source p := by
  cases h with
  | broken hp hcheck hfatal => exact iff_of_true ⟨_, rfl, hfatal⟩ ⟨_, hp, _, hcheck, hfatal⟩
  | invalid hbreaks _ =>
    refine iff_of_false ?_ fun ⟨p, hp, hbroken⟩ => hbreaks p hp hbroken
    rintro ⟨_, heq, hfatal⟩
    exact hfatal _ (Except.error.inj heq).symm
  | passed hbreaks _ => exact iff_of_false (by simp) fun ⟨p, hp, hbroken⟩ => hbreaks p hp hbroken

/-- A check that does not break is invalid exactly if a parameter is. -/
lemma invalid_iff (h : Verdict val source ps r) (hbreaks : ¬ ∃ p ∈ ps, Breaks val source p) :
    (∃ violations, r = .error (.invalid violations)) ↔ ∃ p ∈ ps, IsInvalid val source p := by
  cases h with
  | broken hp hcheck hfatal => exact absurd ⟨_, hp, _, hcheck, hfatal⟩ hbreaks
  | @invalid violations _ heq =>
    refine iff_of_true ⟨violations, rfl⟩ ?_
    by_contra hnone
    refine violations.ne_nil (heq.trans (List.flatMap_eq_nil_iff.2 fun p hp => ?_))
    exact violationsBy_eq_nil_iff.2 fun hinvalid => hnone ⟨p, hp, hinvalid⟩
  | passed _ hinvalid => exact iff_of_false (by simp) fun ⟨p, hp, h⟩ => hinvalid p hp h

lemma toList_eq {violations : Violations}
    (h : Verdict val source ps (.error (.invalid violations))) :
    violations.toList = ps.flatMap (violationsBy val source) := by
  cases h with
  | broken _ _ hfatal => exact absurd rfl (hfatal violations)
  | invalid _ heq => exact heq

lemma eq_ok (h : Verdict val source ps r) (hbreaks : ¬ ∃ p ∈ ps, Breaks val source p)
    (hinvalid : ¬ ∃ p ∈ ps, IsInvalid val source p) :
    r = .ok (Fields.ofPairs (present val source ps)) := by
  have hnot := mt (h.invalid_iff hbreaks).1 hinvalid
  cases h with
  | broken hp hcheck hfatal => exact absurd ⟨_, hp, _, hcheck, hfatal⟩ hbreaks
  | invalid => exact absurd ⟨_, rfl⟩ hnot
  | passed => rfl

end Verdict

/-- A check passes exactly if that of every parameter does; the result are the values of those that
are there, one set after another. -/
theorem check_eq_ok_iff :
    ps.check val source = .ok values ↔
      (∀ p ∈ ps, ∃ found, p.check val source = .ok found) ∧
        values = Fields.ofPairs (present val source ps) := by
  have hverdict := check_verdict val source ps
  constructor
  · intro h
    rw [h] at hverdict
    cases hverdict with
    | passed hbreaks hinvalid =>
      exact ⟨fun p hp => exists_eq_ok (hbreaks p hp) (hinvalid p hp), rfl⟩
  · rintro ⟨hall, rfl⟩
    refine hverdict.eq_ok ?_ ?_
    · rintro ⟨p, hp, failure, hcheck, -⟩
      obtain ⟨found, hfound⟩ := hall p hp
      simp [hfound] at hcheck
    · rintro ⟨p, hp, violations, hcheck⟩
      obtain ⟨found, hfound⟩ := hall p hp
      simp [hfound] at hcheck

/-! ## Namesakes -/

/-- Parameters that are told apart are equal if they have the same location and name. -/
lemma eq_of_clash (hps : ps.Pairwise fun q r => clash q r = false) (hp : p ∈ ps) (hq : q ∈ ps)
    (hclash : clash p q = true) : p = q := by
  have : Std.Symm fun q r : Parameter => clash q r = false := ⟨fun q r h =>
    clash_eq_false_iff.2 ((clash_eq_false_iff.1 h).imp Ne.symm Ne.symm)⟩
  by_contra hne
  have hfalse := hps.forall hp hq hne
  simp [hclash] at hfalse

lemma keys_present (val : Validator) (source : Source) (ps : Parameters) :
    Fields.keys (present val source ps) =
      (ps.filter fun p => (value? val source p).isSome).map Parameter.name := by
  rw [Fields.keys, present]
  induction ps with
  | nil => rfl
  | cons p ps ih =>
    cases hvalue : value? val source p with
    | none =>
      rw [List.filterMap_cons_none (by rw [hvalue]; rfl),
        List.filter_cons_of_neg (by simp [hvalue]), ih]
    | some v =>
      rw [List.filterMap_cons_some (b := (p.name, v)) (by rw [hvalue]; rfl),
        List.filter_cons_of_pos (by simp [hvalue]), List.map_cons, List.map_cons, ih]

/-- The names of the parameters that are there are different exactly if those with one name have
one location. -/
lemma nodup_keys_present_iff (hps : ps.Pairwise fun q r => clash q r = false) :
    (Fields.keys (present val source ps)).Nodup ↔
      ∀ p ∈ ps, ∀ q ∈ ps, ∀ v w, p.check val source = .ok (some v) →
        q.check val source = .ok (some w) → p.name = q.name → p.location = q.location := by
  have hnodup : (ps.filter fun p => (value? val source p).isSome).Nodup := by
    refine List.Nodup.filter _ (hps.imp fun {q r} h => ?_)
    rintro rfl
    simp [clash] at h
  rw [keys_present, List.nodup_map_iff_inj_on hnodup]
  simp only [List.mem_filter, Option.isSome_iff_exists, value?_eq_some_iff]
  constructor
  · intro h p hp q hq v w hv hw hname
    rw [h p ⟨hp, v, hv⟩ q ⟨hq, w, hw⟩ hname]
  · rintro h p ⟨hp, v, hv⟩ q ⟨hq, w, hw⟩ hname
    exact eq_of_clash hps hp hq (clash_iff.2 ⟨h p hp q hq v w hv hw hname, hname⟩)

/-- **Which values a check keeps.**  If a check passes, so does that of every parameter, and under a
name stands the value of the last parameter that has the name and is there.  So every value is kept,
with as many entries as there are values, exactly if no two parameters that are there have one name
in two locations. -/
theorem check_keeps_values_iff (declared : List Parameter)
    (h : (ofList declared).check val source = .ok values) :
    (∀ p ∈ ofList declared, ∃ found, p.check val source = .ok found) ∧
    (∀ name, values.lookup name =
      (present val source (ofList declared)).reverse.lookup name) ∧
    ((∀ p ∈ ofList declared, ∀ v, p.check val source = .ok (some v) →
        values.lookup p.name = some v) ∧
      values.length = (present val source (ofList declared)).length ↔
      ∀ p ∈ ofList declared, ∀ q ∈ ofList declared, ∀ v w, p.check val source = .ok (some v) →
        q.check val source = .ok (some w) → p.name = q.name → p.location = q.location) := by
  obtain ⟨hall, rfl⟩ := check_eq_ok_iff.1 h
  refine ⟨hall, fun name => Fields.lookup_ofPairs name _, ?_⟩
  have hkept (hnodup : (Fields.keys (present val source (ofList declared))).Nodup) :
      ∀ p ∈ ofList declared, ∀ v, p.check val source = .ok (some v) →
        (Fields.ofPairs (present val source (ofList declared))).lookup p.name = some v := by
    intro p hp v hcheck
    rw [Fields.ofPairs_of_nodup hnodup]
    exact Fields.lookup_of_mem hnodup (mem_present_iff.2 ⟨p, hp, rfl, hcheck⟩)
  rw [← nodup_keys_present_iff (pairwise_ofList declared), Fields.length_ofPairs_eq_iff]
  exact ⟨And.right, fun hnodup => ⟨hkept hnodup, hnodup⟩⟩

/-! ### An identifier in the path and in the query -/

namespace Namesakes

/-- A text in the path that must be there. -/
def inPath (name : String) : Parameter :=
  ⟨name, .path, .simple, false, true, false, some (.object [("type", .string "string")])⟩

/-- A text in the query that may be missing. -/
def inQuery (name : String) : Parameter :=
  ⟨name, .query, .form, true, false, false, some (.object [("type", .string "string")])⟩

/-- A request with an identifier in the path and a field in the query. -/
def sent (key : String) : Source := ⟨[("id", "a")], [(key, ["b"])], {}⟩

end Namesakes

open Namesakes

/-- Two parameters with different names are both kept. -/
theorem different_names_are_kept :
    ∃ values, (ofList [inPath "id", inQuery "kind"]).check Dialect.oas3.alone (sent "kind") =
        .ok values ∧
      (∀ v, (inPath "id").check Dialect.oas3.alone (sent "kind") = .ok (some v) →
        values.lookup "id" = some v) ∧
      values.length = 2 := by
  have hpasses : ((ofList [inPath "id", inQuery "kind"]).check Dialect.oas3.alone
        (sent "kind")).toOption.isSome ∧
      (present Dialect.oas3.alone (sent "kind")
        (ofList [inPath "id", inQuery "kind"])).length = 2 := by
    decide
  have hlist : ofList [inPath "id", inQuery "kind"] = [inPath "id", inQuery "kind"] := rfl
  cases hcheck : (ofList [inPath "id", inQuery "kind"]).check Dialect.oas3.alone (sent "kind") with
  | error failure => simp [hcheck, Except.toOption] at hpasses
  | ok values =>
    obtain ⟨-, -, hkept⟩ := check_keeps_values_iff [inPath "id", inQuery "kind"] hcheck
    obtain ⟨hvalues, hlength⟩ := hkept.2 fun p hp q hq v w _ _ hname => by
      simp only [hlist, List.mem_cons, List.not_mem_nil, or_false] at hp hq
      rcases hp with rfl | rfl <;> rcases hq with rfl | rfl
      · rfl
      · exact absurd hname (by decide)
      · exact absurd hname (by decide)
      · rfl
    exact ⟨values, rfl, hvalues _ (by simp [hlist]), hlength.trans hpasses.2⟩

/-- **A value is lost to a namesake.**  Both parameters are told apart and both are there, but the
value in the path is not among the values: that of the query stands in its place. -/
theorem namesake_replaces_value :
    (ofList [inPath "id", inQuery "id"]).length = 2 ∧
    (value? Dialect.oas3.alone (sent "id") (inPath "id")).bind Value.string? = some "a" ∧
    (value? Dialect.oas3.alone (sent "id") (inQuery "id")).bind Value.string? = some "b" ∧
    ((ofList [inPath "id", inQuery "id"]).check Dialect.oas3.alone (sent "id")).toOption.map
      (fun values => (values.length, (values.lookup "id").bind Value.string?)) =
        some (1, some "b") := by
  decide

end Parameters

end ApiContract
