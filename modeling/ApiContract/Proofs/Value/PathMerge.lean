/-
# What stands at a path of merged values

Objects are merged key by key and arrays item by item.  So at a path stands what either value has
there, merged if both have something, as long as on the way both values have the same shape.  From
where they have not, the first value stays with everything in it, and what the second one has
further on is lost.
-/
import ApiContract.Proofs.Value.Merge
import ApiContract.Proofs.Value.Pairs
import ApiContract.Proofs.Value.Path

namespace ApiContract

/-! ## One field after the other -/

namespace Fields

variable {α : Type}

/-- Fields with others set one after the other, each of them combined with what its key has. -/
def combine (f : String → α → α → α) (fields : List (String × α)) :
    List (String × α) → List (String × α)
  | [] => fields
  | (key, b) :: others =>
    combine f (insert key ((fields.lookup key).elim b (f key · b)) fields) others

lemma lookup_combine {others : List (String × α)} (hnodup : (keys others).Nodup)
    (f : String → α → α → α) (fields : List (String × α)) (key : String) :
    (combine f fields others).lookup key =
      Option.merge (f key) (fields.lookup key) (others.lookup key) := by
  induction others generalizing fields with
  | nil => simp [combine]
  | cons field others ih =>
    obtain ⟨k, b⟩ := field
    obtain ⟨hnot, hnodup⟩ := List.nodup_cons.1 hnodup
    rw [combine, ih hnodup]
    by_cases hk : key = k
    · -- The key does not come again.
      subst hk
      rw [lookup_insert, lookup_eq_none_iff_not_mem.2 hnot, List.lookup_cons_self]
      cases fields.lookup key <;> rfl
    · rw [lookup_insert_of_ne hk, List.lookup_cons, beq_false_of_ne hk]

end Fields

namespace Value

variable {v w : Value} {step : PathStep} {path : List PathStep}

/-! ## One step into merged values -/

lemma mergeFields_eq_combine (fields others : Fields) :
    mergeFields fields others = Fields.combine (fun _ => merge) fields others := by
  induction others generalizing fields with
  | nil => rfl
  | cons field others ih =>
    obtain ⟨key, w⟩ := field
    rw [mergeFields, Fields.combine]
    cases fields.lookup key <;> exact ih _

lemma getElem?_mergeItems (items others : List Value) (i : Nat) :
    (mergeItems items others)[i]? = Option.merge merge items[i]? others[i]? := by
  induction others generalizing items i with
  | nil => simp [mergeItems]
  | cons w others ih =>
    cases items with
    | nil =>
      rw [mergeItems]
      cases i with
      | zero => rfl
      | succ i => simpa using ih [] i
    | cons v items =>
      rw [mergeItems]
      cases i with
      | zero => rfl
      | succ i => simpa using ih items i

/-- A step into values of one shape leads to what the two have there, merged. -/
lemma child?_merge (hkeys : w.hasUniqueKeys) (hshape : v.shape = w.shape) (step : PathStep) :
    (merge v w).child? step = Option.merge merge (v.child? step) (w.child? step) := by
  cases v with
  | array items =>
    cases w <;> simp only [shape, reduceCtorEq] at hshape
    rw [merge]
    cases step with
    | key => rfl
    | index i => exact getElem?_mergeItems ..
  | object fields =>
    cases w <;> simp only [shape, reduceCtorEq] at hshape
    rw [merge, mergeFields_eq_combine]
    cases step with
    | index => rfl
    | key name => exact Fields.lookup_combine (nodup_of_hasUniqueKeys hkeys) ..
  | null | bool | integer | number | string | date | dateTime | bytes | ip =>
    rw [merge_of_not_container (by simp [isContainer]), child?_of_leaf rfl,
      child?_of_leaf hshape.symm]
    rfl

/-- Where two values have different shapes, the first one stays. -/
lemma merge_of_shape_ne (hshape : v.shape ≠ w.shape) : merge v w = v := by
  cases v with
  | array | object => cases w <;> first | rfl | exact absurd rfl hshape
  | null | bool | integer | number | string | date | dateTime | bytes | ip =>
    exact merge_of_not_container (by simp [isContainer]) w

/-! ## Paths on which two values agree -/

/-- Two values have the same shape wherever both have something on the way along a path. -/
def AgreeBefore (v w : Value) (path : List PathStep) : Prop :=
  ∀ before step after, path = before ++ step :: after →
    ∀ a b, v.at? before = some a → w.at? before = some b → a.shape = b.shape

lemma agreeBefore_nil (v w : Value) : AgreeBefore v w [] := by
  rintro before step after heq
  simp at heq

/-- Values agree before the end of a path if they have the same shape and the parts to which its
first step leads agree before its end. -/
lemma agreeBefore_cons : AgreeBefore v w (step :: path) ↔ v.shape = w.shape ∧
    ∀ a b, v.child? step = some a → w.child? step = some b → AgreeBefore a b path := by
  constructor
  · refine fun h => ⟨h [] step path rfl v w rfl rfl, fun a b ha hb => ?_⟩
    rintro before step' after rfl a' b' ha' hb'
    refine h (step :: before) step' after rfl a' b' ?_ ?_
    · rwa [at?_cons_of_child? ha]
    · rwa [at?_cons_of_child? hb]
  · rintro ⟨hshape, hparts⟩ before step' after heq a b ha hb
    cases before with
    | nil =>
      obtain rfl := Option.some.inj ha
      obtain rfl := Option.some.inj hb
      exact hshape
    | cons first before =>
      obtain ⟨rfl, rfl⟩ := List.cons.inj heq
      obtain ⟨v', hv', ha⟩ := exists_child?_of_at? ha
      obtain ⟨w', hw', hb⟩ := exists_child?_of_at? hb
      exact hparts v' w' hv' hw' before step' after rfl a b ha hb

/-- On the way to what both have they agree: a key leads on from objects alone, an index from
arrays. -/
lemma agreeBefore_of_at? {a b : Value} (ha : v.at? path = some a) (hb : w.at? path = some b) :
    AgreeBefore v w path := by
  induction path generalizing v w with
  | nil => exact agreeBefore_nil v w
  | cons step path ih =>
    obtain ⟨v', hv', ha⟩ := exists_child?_of_at? ha
    obtain ⟨w', hw', hb⟩ := exists_child?_of_at? hb
    refine agreeBefore_cons.2 ⟨shape_eq_of_child? hv' hw', fun x y hx hy => ?_⟩
    obtain rfl := Option.some.inj (hv'.symm.trans hx)
    obtain rfl := Option.some.inj (hw'.symm.trans hy)
    exact ih ha hb

/-! ## Paths into merged values -/

/-- **A path of merged values**: along a path on which two values agree, the values that they have
there are merged. -/
theorem at?_merge (hkeys : w.hasUniqueKeys) (hagree : AgreeBefore v w path) :
    (merge v w).at? path = Option.merge merge (v.at? path) (w.at? path) := by
  induction path generalizing v w with
  | nil => rfl
  | cons step path ih =>
    obtain ⟨hshape, hparts⟩ := agreeBefore_cons.1 hagree
    simp only [at?, child?_merge hkeys hshape]
    cases hv : v.child? step with
    | none => simp
    | some a =>
      cases hw : w.child? step with
      | none => simp
      | some b => exact ih (hasUniqueKeys_of_partOf hkeys (partOf_of_child? hw)) (hparts a b hv hw)

/-- Along a path on which two values do not agree, there is what the first one has. -/
theorem at?_merge_of_not_agreeBefore (hkeys : w.hasUniqueKeys)
    (hagree : ¬ AgreeBefore v w path) : (merge v w).at? path = v.at? path := by
  induction path generalizing v w with
  | nil => exact absurd (agreeBefore_nil v w) hagree
  | cons step path ih =>
    by_cases hshape : v.shape = w.shape
    · obtain ⟨a, b, ha, hb, hnot⟩ : ∃ a b, v.child? step = some a ∧ w.child? step = some b ∧
          ¬ AgreeBefore a b path := by
        by_contra hall
        push Not at hall
        exact hagree (agreeBefore_cons.2 ⟨hshape, hall⟩)
      have hmerged : (merge v w).child? step = some (merge a b) := by
        rw [child?_merge hkeys hshape, ha, hb]
        rfl
      rw [at?_cons_of_child? hmerged, at?_cons_of_child? ha]
      exact ih (hasUniqueKeys_of_partOf hkeys (partOf_of_child? hb)) hnot
    · rw [merge_of_shape_ne hshape]

/-- Where the second value has nothing, the first one is as it was. -/
lemma at?_merge_of_right_eq_none (hkeys : w.hasUniqueKeys) (hw : w.at? path = none) :
    (merge v w).at? path = v.at? path := by
  by_cases hagree : AgreeBefore v w path
  · rw [at?_merge hkeys hagree, hw, Option.merge_none_right]
  · exact at?_merge_of_not_agreeBefore hkeys hagree

lemma isSome_at?_merge_iff (hkeys : w.hasUniqueKeys) :
    ((merge v w).at? path).isSome ↔
      (v.at? path).isSome ∨ (w.at? path).isSome ∧ AgreeBefore v w path := by
  by_cases hagree : AgreeBefore v w path
  · rw [at?_merge hkeys hagree]
    cases v.at? path <;> cases w.at? path <;> simp [Option.merge, hagree]
  · simp [at?_merge_of_not_agreeBefore hkeys hagree, hagree]

end Value

end ApiContract
