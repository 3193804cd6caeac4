/-
# What stands at a path

A key leads into an object and an index into an array, so a path has a value or none.  Two values
are compared along their paths: one extends the other if it has all of its paths and the same kind
of thing at each of them, and values that are equal have equal values at the same paths.
-/
import ApiContract.Proofs.Value.Reordering

namespace ApiContract.Value

variable {o u v w : Value} {step : PathStep} {path : List PathStep}

/-! ## Shapes -/

/-- What steps lead on from a value: none, indices or keys. -/
inductive Shape where
  /-- A value without parts. -/
  | leaf
  /-- An array. -/
  | array
  /-- An object. -/
  | object
deriving DecidableEq

/-- The shape of a value. -/
def shape : Value → Shape
  | array _ => .array
  | object _ => .object
  | _ => .leaf

lemma shape_eq_object_iff : v.shape = .object ↔ ∃ fields, v = .object fields := by
  cases v <;> simp [shape]

lemma shape_eq_array_iff : v.shape = .array ↔ ∃ items, v = .array items := by
  cases v <;> simp [shape]

lemma shape_eq_leaf_iff : v.shape = .leaf ↔ ¬ v.isContainer := by
  cases v <;> simp [shape, isContainer]

/-! ## Steps and paths -/

/-- The part of a value that a step leads to. -/
def child? : PathStep → Value → Option Value
  | .key name, object fields => fields.lookup name
  | .index i, array items => items[i]?
  | _, _ => none

/-- The value at a path. -/
def at? : List PathStep → Value → Option Value
  | [], v => some v
  | step :: path, v => (child? step v).bind (at? path)

lemma child?_of_leaf (h : v.shape = .leaf) (step : PathStep) : v.child? step = none := by
  cases v with
  | array | object => simp [shape] at h
  | null | bool | integer | number | string | date | dateTime | bytes | ip => cases step <;> rfl

lemma partOf_of_child? (h : v.child? step = some u) : PartOf u v := by
  unfold child? at h
  split at h
  · exact partOf_of_lookup h
  · exact partOf_of_getElem? h
  · simp at h

/-- A step that leads on from two values leads on from values of one shape. -/
lemma shape_eq_of_child? {a b : Value} (ha : v.child? step = some a)
    (hb : w.child? step = some b) : v.shape = w.shape := by
  cases step <;> cases v <;> cases w <;> simp_all [child?, shape]

lemma at?_cons_of_child? (h : v.child? step = some u) : v.at? (step :: path) = u.at? path := by
  rw [at?, h, Option.bind_some]

lemma at?_cons_of_child?_eq_none (h : v.child? step = none) : v.at? (step :: path) = none := by
  rw [at?, h, Option.bind_none]

lemma exists_child?_of_at? (h : v.at? (step :: path) = some w) :
    ∃ u, v.child? step = some u ∧ u.at? path = some w :=
  Option.bind_eq_some_iff.1 h

/-! ## Values with at least the paths of another -/

/-- A value extends another one if it has every path of it, and there a value of the same
shape. -/
def Extends (o e : Value) : Prop :=
  ∀ path u, o.at? path = some u → ∃ v, e.at? path = some v ∧ v.shape = u.shape

lemma Extends.shape_eq_of_at? (h : o.Extends v) (hu : o.at? path = some u)
    (hw : v.at? path = some w) : w.shape = u.shape := by
  obtain ⟨_, hw', hshape⟩ := h path u hu
  obtain rfl := Option.some.inj (hw.symm.trans hw')
  exact hshape

lemma Extends.shape_eq (h : o.Extends v) : v.shape = o.shape :=
  h.shape_eq_of_at? (show o.at? [] = some o from rfl) rfl

lemma Extends.child (h : o.Extends v) (hu : o.child? step = some u) :
    ∃ w, v.child? step = some w ∧ u.Extends w := by
  obtain ⟨_, hpart, -⟩ := h [step] u (by rw [at?_cons_of_child? hu, at?])
  obtain ⟨w, hw, -⟩ := exists_child?_of_at? hpart
  refine ⟨w, hw, fun path x hx => ?_⟩
  have hat := h (step :: path) x
  rw [at?_cons_of_child? hu, at?_cons_of_child? hw] at hat
  exact hat hx

/-- Extending goes part by part. -/
lemma extends_iff : o.Extends v ↔ v.shape = o.shape ∧
    ∀ step u, o.child? step = some u → ∃ w, v.child? step = some w ∧ u.Extends w := by
  refine ⟨fun h => ⟨h.shape_eq, fun _ _ hu => h.child hu⟩, fun ⟨hshape, hchild⟩ path u hu => ?_⟩
  cases path with
  | nil =>
    obtain rfl := Option.some.inj hu
    exact ⟨v, rfl, hshape⟩
  | cons step path =>
    obtain ⟨part, hpart, hu⟩ := exists_child?_of_at? hu
    obtain ⟨w, hw, hextends⟩ := hchild step part hpart
    rw [at?_cons_of_child? hw]
    exact hextends path u hu

lemma extends_of_leaf (ho : o.shape = .leaf) (hv : v.shape = .leaf) : o.Extends v :=
  extends_iff.2 ⟨hv.trans ho.symm, fun step u hu => by simp [child?_of_leaf ho] at hu⟩

lemma extends_object {fields others : Fields}
    (h : ∀ field ∈ fields, ∃ w, others.lookup field.1 = some w ∧ field.2.Extends w) :
    (object fields).Extends (object others) := by
  refine extends_iff.2 ⟨rfl, fun step u hu => ?_⟩
  cases step with
  | key name => exact h (name, u) (Fields.mem_of_lookup hu)
  | index => simp [child?] at hu

/-! ## Values without doubles -/

/-- A value is exact if there is no double in it. -/
def IsExact (v : Value) : Prop :=
  ∀ path x, v.at? path ≠ some (number x)

lemma IsExact.child (h : v.IsExact) (hu : v.child? step = some u) : u.IsExact := fun path x => by
  rw [← at?_cons_of_child? hu]
  exact h (step :: path) x

lemma isExact_of_leaf (hleaf : v.shape = .leaf) (hv : ∀ x, v ≠ number x) : v.IsExact := by
  intro path x hx
  cases path with
  | nil => exact hv x (Option.some.inj hx)
  | cons step path => simp [at?_cons_of_child?_eq_none (child?_of_leaf hleaf step)] at hx

lemma isExact_object {fields : Fields} (h : ∀ field ∈ fields, field.2.IsExact) :
    (object fields).IsExact := by
  intro path x hx
  cases path with
  | nil => simp [at?] at hx
  | cons step path =>
    obtain ⟨u, hu, hat⟩ := exists_child?_of_at? hx
    cases step with
    | key name => exact h (name, u) (Fields.mem_of_lookup hu) path x hat
    | index => simp [child?] at hu

lemma IsExact.ne_number (h : v.IsExact) (hu : v.at? path = some u) (x : Float) :
    u ≠ number x := by
  rintro rfl
  exact h path x hu

/-! ## Equal values -/

lemma shape_eq_of_same (h : v == w) : v.shape = w.shape := by
  change v.same w at h
  cases v <;> cases w <;> simp_all [same, shape]

lemma getElem?_of_sameItems {items others : List Value} {i : Nat} (h : sameItems items others)
    (hv : items[i]? = some v) : ∃ w, others[i]? = some w ∧ v == w := by
  induction items generalizing others i with
  | nil => simp at hv
  | cons item items ih =>
    cases others with
    | nil => simp [sameItems] at h
    | cons other others =>
      rw [sameItems, Bool.and_eq_true] at h
      cases i with
      | zero =>
        obtain rfl := Option.some.inj hv
        exact ⟨other, rfl, h.1⟩
      | succ i =>
        obtain ⟨w, hw, hsame⟩ := ih h.2 hv
        exact ⟨w, hw, hsame⟩

lemma child?_of_same (h : v == w) (hu : v.child? step = some u) :
    ∃ x, w.child? step = some x ∧ u == x := by
  have hshape := shape_eq_of_same h
  change v.same w at h
  cases v with
  | array items =>
    cases w <;> simp only [shape, reduceCtorEq] at hshape
    cases step with
    | key => simp [child?] at hu
    | index i =>
      rw [same] at h
      exact getElem?_of_sameItems h hu
  | object fields =>
    cases w <;> simp only [shape, reduceCtorEq] at hshape
    cases step with
    | index => simp [child?] at hu
    | key name =>
      rw [same, Bool.and_eq_true, sameFields_iff] at h
      exact h.2 (name, u) (Fields.mem_of_lookup hu)
  | null | bool | integer | number | string | date | dateTime | bytes | ip =>
    rw [child?_of_leaf rfl] at hu
    simp at hu

/-- Equal values have equal values at their paths. -/
lemma at?_of_same (h : v == w) (hu : v.at? path = some u) :
    ∃ x, w.at? path = some x ∧ u == x := by
  induction path generalizing v w with
  | nil =>
    obtain rfl := Option.some.inj hu
    exact ⟨w, rfl, h⟩
  | cons step path ih =>
    obtain ⟨a, ha, hu⟩ := exists_child?_of_at? hu
    obtain ⟨b, hb, hsame⟩ := child?_of_same h ha
    rw [at?_cons_of_child? hb]
    exact ih hsame hu

/-- A leaf that is no double equals itself. -/
lemma same_self_of_leaf (hleaf : v.shape = .leaf) (hexact : ∀ x, v ≠ number x) : v == v := by
  change v.same v
  cases v with
  | number x => exact absurd rfl (hexact x)
  | array | object => simp [shape] at hleaf
  | null | bool | integer | string | date | dateTime | bytes | ip =>
    simp [same, Timestamp.same]

/-- Leaves that are no doubles are equal if they equal the same one. -/
lemma same_of_same_of_leaf (hleaf : u.shape = .leaf) (hu : ∀ x, u ≠ number x)
    (hv : ∀ x, v ≠ number x) (hw : ∀ x, w ≠ number x) (hvu : v == u) (hwu : w == u) : v == w := by
  change v.same u at hvu
  change w.same u at hwu
  change v.same w
  cases u <;> cases v <;> simp [same, shape] at hvu hleaf hu hv <;>
    cases w <;> simp_all [same, Timestamp.same]

end ApiContract.Value
