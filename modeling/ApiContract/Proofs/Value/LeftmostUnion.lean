/-
# Merging several values

Values are compatible if they have the same shape at every path that both of them have.  Merged,
compatible values have all paths of any of them; at a leaf stands what the first one that has the
path has there, and the keys of an object come in the order in which they appear first.  So nothing
depends on how the values are grouped: merging is associative as long as the values are compatible.

Of values that are not compatible the first one stays where they differ, and it depends on the
grouping which one is the first.

A value is told from another one by its shape, its keys and its parts, and of all three it is known
what they are after merging.  Every equation goes through the parts of the first value.
-/
import ApiContract.Proofs.Value.PathMerge

namespace ApiContract

/-! ## Keys in the order of their first appearance -/

lemma eraseDups_eq_of_nodup {l : List String} (h : l.Nodup) : l.eraseDups = l := by
  induction l with
  | nil => rfl
  | cons a l ih =>
    obtain ⟨hnot, hnodup⟩ := List.nodup_cons.1 h
    have hrest : l.filter (fun b => !b == a) = l := by
      refine List.filter_eq_self.2 fun b hb => ?_
      have hne : b ≠ a := by
        rintro rfl
        exact hnot hb
      simp [hne]
    rw [List.eraseDups_cons, hrest, ih hnodup]

/-- Entries that have come before make no difference to the order of first appearance. -/
lemma eraseDups_append_filter (l m r : List String) :
    (l ++ m.filter (· ∉ l) ++ r).eraseDups = (l ++ m ++ r).eraseDups := by
  have hmiddle : (m.filter (· ∉ l)).removeAll l = m.removeAll l := by
    simp only [List.removeAll, List.filter_filter]
    refine List.filter_congr fun b _ => ?_
    by_cases hb : b ∈ l <;> simp [hb]
  have hrest : r.removeAll (l ++ m.filter (· ∉ l)) = r.removeAll (l ++ m) := by
    refine List.filter_congr fun b _ => ?_
    by_cases hb : b ∈ l <;> by_cases hb' : b ∈ m <;> simp [hb, hb']
  rw [List.eraseDups_append, List.eraseDups_append, hmiddle, hrest, ← List.eraseDups_append,
    ← List.eraseDups_append]

namespace Fields

variable {α : Type} {fields others : List (String × α)}

/-- Fields are known by their keys, if these are unique, and by what stands under each of them. -/
lemma eq_of_lookup_eq (hnodup : (keys fields).Nodup) (hkeys : keys fields = keys others)
    (hlookup : ∀ key, fields.lookup key = others.lookup key) : fields = others := by
  induction fields generalizing others with
  | nil =>
    cases others with
    | nil => rfl
    | cons => simp [keys] at hkeys
  | cons field fields ih =>
    obtain ⟨key, a⟩ := field
    cases others with
    | nil => simp [keys] at hkeys
    | cons field' others =>
      obtain ⟨key', b⟩ := field'
      obtain ⟨rfl, hrest⟩ : key = key' ∧ keys fields = keys others := List.cons.inj hkeys
      obtain ⟨hnot, hnodup⟩ := List.nodup_cons.1 hnodup
      obtain rfl : a = b := by simpa using hlookup key
      refine congrArg _ (ih hnodup hrest fun k => ?_)
      by_cases hk : k = key
      · -- The key comes once on either side.
        subst hk
        have hnot' : k ∉ keys others := hrest ▸ hnot
        rw [lookup_eq_none_iff_not_mem.2 hnot, lookup_eq_none_iff_not_mem.2 hnot']
      · have hcons := hlookup k
        rwa [List.lookup_cons, List.lookup_cons, beq_false_of_ne hk] at hcons

/-- New keys come after those that are there. -/
lemma keys_combine (hnodup : (keys others).Nodup) (f : String → α → α → α)
    (fields : List (String × α)) :
    keys (combine f fields others) = keys fields ++ (keys others).filter (· ∉ keys fields) := by
  induction others generalizing fields with
  | nil => simp [combine, keys]
  | cons field others ih =>
    obtain ⟨key, b⟩ := field
    obtain ⟨hnot, hnodup⟩ := List.nodup_cons.1 hnodup
    rw [combine, ih hnodup, show keys ((key, b) :: others) = key :: keys others from rfl]
    by_cases hkey : key ∈ keys fields
    · rw [keys_insert hkey, List.filter_cons_of_neg (by simpa using hkey)]
    · have hrest : (keys others).filter (· ∉ keys fields ++ [key]) =
          (keys others).filter (· ∉ keys fields) := by
        refine List.filter_congr fun k hk => ?_
        have hne : k ≠ key := by
          rintro rfl
          exact hnot hk
        simp [hne]
      rw [insert_of_not_mem hkey, List.filter_cons_of_pos (by simpa using hkey), keys,
        List.map_append, ← keys]
      change keys fields ++ [key] ++ (keys others).filter (· ∉ keys fields ++ [key]) = _
      rw [hrest, List.append_assoc, List.singleton_append]

end Fields

namespace Value

variable {a b c u v w : Value} {vs ws : List Value} {path : List PathStep}

/-! ## What makes up a value -/

/-- The keys of an object in order; other values have none. -/
def keys (v : Value) : List String :=
  v.object?.elim [] Fields.keys

/-- The keys of the object at a path. -/
def keysAt (path : List PathStep) (v : Value) : List String :=
  (v.at? path).elim [] keys

lemma nodup_keys (h : v.hasUniqueKeys) : v.keys.Nodup := by
  cases v with
  | object => exact nodup_of_hasUniqueKeys h
  | null | bool | integer | number | string | array | date | dateTime | bytes | ip =>
    exact List.nodup_nil

lemma keys_eq_nil (h : v.shape ≠ .object) : v.keys = [] := by
  cases v <;> first | rfl | exact absurd rfl h

lemma hasUniqueKeys_child? {step : PathStep} (h : v.hasUniqueKeys) (hu : v.child? step = some u) :
    u.hasUniqueKeys :=
  hasUniqueKeys_of_partOf h (partOf_of_child? hu)

/-- Every part of an object with different keys is reached by a key, and every item of an array by
its index. -/
lemma exists_child?_of_partOf (hnodup : v.keys.Nodup) (h : PartOf u v) :
    ∃ step, v.child? step = some u := by
  cases h with
  | item hmem =>
    obtain ⟨i, hi⟩ := List.mem_iff_getElem?.1 hmem
    exact ⟨.index i, hi⟩
  | @field name _ _ hmem => exact ⟨.key name, Fields.lookup_of_mem hnodup hmem⟩

/-- A value has unique keys if its own keys are unique and its parts have unique keys. -/
lemma hasUniqueKeys_of_child? (hnodup : v.keys.Nodup)
    (h : ∀ step u, v.child? step = some u → u.hasUniqueKeys) : v.hasUniqueKeys := by
  have hpart : ∀ u, PartOf u v → u.hasUniqueKeys := by
    intro u hu
    obtain ⟨step, hstep⟩ := exists_child?_of_partOf hnodup hu
    exact h step u hstep
  cases v with
  | array items =>
    have hitems : ∀ u ∈ items, u.hasUniqueKeys := fun u hu => hpart u (.item hu)
    rw [hasUniqueKeys]
    clear hnodup h hpart
    induction items with
    | nil => rfl
    | cons v items ih =>
      rw [uniqueInItems, Bool.and_eq_true]
      exact ⟨hitems v (by simp), ih fun u hu => hitems u (by simp [hu])⟩
  | object fields =>
    have hfields : ∀ field ∈ fields, field.2.hasUniqueKeys :=
      fun field hfield => hpart field.2 (.field hfield)
    rw [hasUniqueKeys, Bool.and_eq_true, decide_eq_true_eq]
    refine ⟨hnodup, ?_⟩
    clear hnodup h hpart
    induction fields with
    | nil => rfl
    | cons field fields ih =>
      rw [uniqueInFields, Bool.and_eq_true]
      exact ⟨hfields field (by simp), ih fun u hu => hfields u (by simp [hu])⟩
  | null | bool | integer | number | string | date | dateTime | bytes | ip => rfl

/-- Values with parts are equal if they have the same shape, the same keys in the same order and
the same parts. -/
lemma eq_of_child?_eq (hv : v.shape ≠ .leaf) (hshape : v.shape = w.shape)
    (hnodup : v.keys.Nodup) (hkeys : v.keys = w.keys)
    (hchild : ∀ step, v.child? step = w.child? step) : v = w := by
  cases v with
  | array items =>
    cases w <;> simp only [shape, reduceCtorEq] at hshape
    exact congrArg _ (List.ext_getElem? fun i => hchild (.index i))
  | object fields =>
    cases w <;> simp only [shape, reduceCtorEq] at hshape
    exact congrArg _ (Fields.eq_of_lookup_eq hnodup hkeys fun key => hchild (.key key))
  | null | bool | integer | number | string | date | dateTime | bytes | ip => simp [shape] at hv

/-! ## Two values merged -/

lemma merge_of_leaf (h : v.shape = .leaf) (w : Value) : merge v w = v :=
  merge_of_not_container (shape_eq_leaf_iff.1 h) w

lemma shape_merge (v w : Value) : (merge v w).shape = v.shape := by
  cases v <;> cases w <;> rfl

lemma keys_merge (hw : w.hasUniqueKeys) (hshape : v.shape = w.shape) :
    (merge v w).keys = v.keys ++ w.keys.filter (· ∉ v.keys) := by
  by_cases hobject : v.shape = .object
  · cases v <;> simp only [shape, reduceCtorEq] at hobject
    cases w <;> simp only [shape, reduceCtorEq] at hshape
    rw [merge, mergeFields_eq_combine]
    exact Fields.keys_combine (nodup_of_hasUniqueKeys hw) ..
  · have hmerge : (merge v w).shape ≠ .object := by rwa [shape_merge]
    rw [keys_eq_nil hobject, keys_eq_nil hmerge, keys_eq_nil (hshape ▸ hobject)]
    rfl

lemma nodup_keys_merge (hv : v.hasUniqueKeys) (hw : w.hasUniqueKeys)
    (hshape : v.shape = w.shape) : (merge v w).keys.Nodup := by
  rw [keys_merge hw hshape]
  refine List.nodup_append.2 ⟨nodup_keys hv, (nodup_keys hw).filter _, fun key hkey k hk => ?_⟩
  rintro rfl
  simp [hkey] at hk

/-- Merged values have unique keys if both have. -/
lemma hasUniqueKeys_merge (hv : v.hasUniqueKeys) (hw : w.hasUniqueKeys) :
    (merge v w).hasUniqueKeys := by
  induction v using partOf_wellFounded.induction generalizing w with
  | _ v ih =>
    by_cases hshape : v.shape = w.shape
    · refine hasUniqueKeys_of_child? (nodup_keys_merge hv hw hshape) fun step u hu => ?_
      rw [child?_merge hw hshape] at hu
      cases ha : v.child? step with
      | none =>
        rw [ha, Option.merge_none_left] at hu
        exact hasUniqueKeys_child? hw hu
      | some a =>
        cases hb : w.child? step with
        | none =>
          rw [ha, hb, Option.merge_none_right] at hu
          obtain rfl := Option.some.inj hu
          exact hasUniqueKeys_child? hv ha
        | some b =>
          rw [ha, hb] at hu
          obtain rfl := Option.some.inj hu
          exact ih a (partOf_of_child? ha) (hasUniqueKeys_child? hv ha) (hasUniqueKeys_child? hw hb)
    · rwa [merge_of_shape_ne hshape]

/-- **Merging is idempotent.** -/
theorem merge_self (h : v.hasUniqueKeys) : merge v v = v := by
  induction v using partOf_wellFounded.induction with
  | _ v ih =>
    by_cases hleaf : v.shape = .leaf
    · exact merge_of_leaf hleaf v
    · refine eq_of_child?_eq (by rwa [shape_merge]) (shape_merge v v) (nodup_keys_merge h h rfl) ?_
        fun step => ?_
      · rw [keys_merge h rfl, List.filter_eq_nil_iff.2 fun key hkey => by simpa using hkey,
          List.append_nil]
      · rw [child?_merge h rfl]
        cases hu : v.child? step with
        | none => rfl
        | some u => exact congrArg some (ih u (partOf_of_child? hu) (hasUniqueKeys_child? h hu))

/-- **Merging a value in again changes nothing.** -/
theorem merge_merge_self (hv : v.hasUniqueKeys) (hw : w.hasUniqueKeys) :
    merge (merge v w) w = merge v w := by
  induction v using partOf_wellFounded.induction generalizing w with
  | _ v ih =>
    by_cases hshape : v.shape = w.shape
    · by_cases hleaf : v.shape = .leaf
      · rw [merge_of_leaf hleaf, merge_of_leaf hleaf]
      have hvw := hasUniqueKeys_merge hv hw
      have hshape' : (merge v w).shape = w.shape := (shape_merge v w).trans hshape
      refine eq_of_child?_eq (by rwa [shape_merge, shape_merge]) (shape_merge _ w)
        (nodup_keys_merge hvw hw hshape') ?_ fun step => ?_
      · -- All keys of the second value are there.
        have hthere : ∀ key ∈ w.keys, key ∈ (merge v w).keys := by
          intro key hkey
          rw [keys_merge hw hshape]
          by_cases hkey' : key ∈ v.keys <;> simp [hkey, hkey']
        rw [keys_merge hw hshape', List.filter_eq_nil_iff.2 fun key hkey => by
          simpa using hthere key hkey, List.append_nil]
      · rw [child?_merge hw hshape', child?_merge hw hshape]
        cases ha : v.child? step with
        | none =>
          cases hb : w.child? step with
          | none => rfl
          | some b => exact congrArg some (merge_self (hasUniqueKeys_child? hw hb))
        | some a =>
          cases hb : w.child? step with
          | none => rfl
          | some b =>
            exact congrArg some (ih a (partOf_of_child? ha) (hasUniqueKeys_child? hv ha)
              (hasUniqueKeys_child? hw hb))
    · rw [merge_of_shape_ne hshape, merge_of_shape_ne hshape]

/-- A leaf of the first value stays. -/
theorem at?_merge_of_leaf (hw : w.hasUniqueKeys) (hu : v.at? path = some u)
    (hleaf : u.shape = .leaf) : (merge v w).at? path = some u := by
  by_cases hagree : AgreeBefore v w path
  · rw [at?_merge hw hagree, hu]
    cases w.at? path with
    | none => rfl
    | some b => exact congrArg some (merge_of_leaf hleaf b)
  · rw [at?_merge_of_not_agreeBefore hw hagree, hu]

/-! ## Compatible values -/

/-- Values are compatible if they have the same shape at every path that both have. -/
def Compatible (v w : Value) : Prop :=
  ∀ path a b, v.at? path = some a → w.at? path = some b → a.shape = b.shape

namespace Compatible

lemma symm (h : Compatible v w) : Compatible w v :=
  fun path a b ha hb => (h path b a hb ha).symm

lemma shape_eq (h : Compatible v w) : v.shape = w.shape :=
  h [] v w rfl rfl

lemma child {step : PathStep} (h : Compatible v w) (ha : v.child? step = some a)
    (hb : w.child? step = some b) : Compatible a b := by
  intro path x y hx hy
  refine h (step :: path) x y ?_ ?_
  · rwa [at?_cons_of_child? ha]
  · rwa [at?_cons_of_child? hb]

lemma agreeBefore (h : Compatible v w) (path : List PathStep) : AgreeBefore v w path :=
  fun before _ _ _ => h before

/-- At every path stands what the two values have there, merged. -/
lemma at?_merge (h : Compatible v w) (hw : w.hasUniqueKeys) (path : List PathStep) :
    (merge v w).at? path = Option.merge merge (v.at? path) (w.at? path) :=
  Value.at?_merge hw (h.agreeBefore path)

/-- What is compatible with two values is compatible with both merged. -/
lemma merge (h : Compatible v w) (hw : w.hasUniqueKeys) (hv : Compatible v u)
    (hwu : Compatible w u) : Compatible (merge v w) u := by
  intro path x y hx hy
  rw [h.at?_merge hw] at hx
  cases ha : v.at? path with
  | none =>
    rw [ha, Option.merge_none_left] at hx
    exact hwu path x y hx hy
  | some a =>
    cases hb : w.at? path with
    | none =>
      rw [ha, hb, Option.merge_none_right, ← ha] at hx
      exact hv path x y hx hy
    | some b =>
      rw [ha, hb] at hx
      obtain rfl := Option.some.inj hx
      rw [shape_merge]
      exact hv path a y ha hy

end Compatible

/-- **Merging compatible values is associative.** -/
theorem merge_assoc (ha : a.hasUniqueKeys) (hb : b.hasUniqueKeys) (hc : c.hasUniqueKeys)
    (hab : Compatible a b) (hac : Compatible a c) (hbc : Compatible b c) :
    merge (merge a b) c = merge a (merge b c) := by
  induction a using partOf_wellFounded.induction generalizing b c with
  | _ a ih =>
    by_cases hleaf : a.shape = .leaf
    · rw [merge_of_leaf hleaf, merge_of_leaf hleaf, merge_of_leaf hleaf]
    have hmerge := hasUniqueKeys_merge ha hb
    have hmerge' := hasUniqueKeys_merge hb hc
    have hleft : (merge a b).shape = c.shape := (shape_merge a b).trans hac.shape_eq
    have hright : a.shape = (merge b c).shape := hab.shape_eq.trans (shape_merge b c).symm
    refine eq_of_child?_eq (by rwa [shape_merge, shape_merge]) ?_
      (nodup_keys_merge hmerge hc hleft) ?_ fun step => ?_
    · rw [shape_merge, shape_merge, shape_merge]
    · rw [keys_merge hc hleft, keys_merge hb hab.shape_eq, keys_merge hmerge' hright,
        keys_merge hc hbc.shape_eq, List.filter_append, List.filter_filter, List.append_assoc]
      congr 2
      refine List.filter_congr fun key _ => ?_
      by_cases hkey : key ∈ a.keys <;> by_cases hkey' : key ∈ b.keys <;> simp [hkey, hkey']
    · rw [child?_merge hc hleft, child?_merge hb hab.shape_eq, child?_merge hmerge' hright,
        child?_merge hc hbc.shape_eq]
      cases hx : a.child? step with
      | none => simp
      | some x =>
        cases hy : b.child? step with
        | none => simp
        | some y =>
          cases hz : c.child? step with
          | none => simp
          | some z =>
            exact congrArg some (ih x (partOf_of_child? hx) (hasUniqueKeys_child? ha hx)
              (hasUniqueKeys_child? hb hy) (hasUniqueKeys_child? hc hz) (hab.child hx hy)
              (hac.child hx hz) (hbc.child hy hz))

/-- Otherwise it depends on the grouping whether there is something below a leaf that stands in the
middle. -/
example :
    let left := object [("x", object [("l", null)])]
    let right := object [("x", object [("r", null)])]
    (at? [.key "x", .key "r"] (merge (merge left (object [("x", null)])) right)).isSome ∧
      (at? [.key "x", .key "r"] (merge left (merge (object [("x", null)]) right))).isNone := by
  decide

/-! ## Any number of values merged -/

/-- The union of several values, in which the first one wins. -/
structure IsLeftmostUnion (vs : List Value) (w : Value) : Prop where
  /-- There is something at a path if one of the values has something there. -/
  isSome_at?_iff : ∀ path, (w.at? path).isSome ↔ ∃ v ∈ vs, (v.at? path).isSome
  /-- A leaf stands where the first of the values that have something there has it. -/
  leaf_iff : ∀ path u, u.shape = .leaf → (w.at? path = some u ↔ vs.findSome? (at? path) = some u)
  /-- The keys of objects come in the order of their first appearance. -/
  keysAt_eq : ∀ path, keysAt path w = (vs.flatMap (keysAt path)).eraseDups

/-- Values that can be merged in any grouping: their keys are unique, and any two are compatible. -/
structure AreMergeable (vs : List Value) : Prop where
  /-- Every object has each of its keys once. -/
  hasUniqueKeys : ∀ v ∈ vs, v.hasUniqueKeys
  /-- Any two values are compatible. -/
  compatible : vs.Pairwise Compatible

lemma nodup_keysAt (h : v.hasUniqueKeys) (path : List PathStep) : (keysAt path v).Nodup := by
  induction path generalizing v with
  | nil => exact nodup_keys h
  | cons step path ih =>
    cases hu : v.child? step with
    | none =>
      rw [keysAt, at?_cons_of_child?_eq_none hu]
      exact List.nodup_nil
    | some u =>
      rw [keysAt, at?_cons_of_child? hu]
      exact ih (hasUniqueKeys_child? h hu)

lemma isLeftmostUnion_singleton (h : v.hasUniqueKeys) : IsLeftmostUnion [v] v where
  isSome_at?_iff path := by simp
  leaf_iff path u _ := by
    rw [List.findSome?_cons]
    cases v.at? path <;> simp
  keysAt_eq path := by
    rw [List.flatMap_singleton, eraseDups_eq_of_nodup (nodup_keysAt h path)]

lemma hasUniqueKeys_at? (hv : v.hasUniqueKeys) (hu : v.at? path = some u) : u.hasUniqueKeys := by
  induction path generalizing v with
  | nil =>
    obtain rfl := Option.some.inj hu
    exact hv
  | cons step path ih =>
    obtain ⟨part, hpart, hu⟩ := exists_child?_of_at? hu
    exact ih (hasUniqueKeys_child? hv hpart) hu

lemma keysAt_of_at? (hu : v.at? path = some u) : keysAt path v = u.keys := by
  rw [keysAt, hu, Option.elim_some]

lemma keysAt_of_at?_eq_none (hu : v.at? path = none) : keysAt path v = [] := by
  rw [keysAt, hu, Option.elim_none]

namespace Compatible

/-- The keys at a path of two merged values: those of the second one come after those of the first
one. -/
lemma keysAt_merge (h : Compatible v w) (hw : w.hasUniqueKeys) (path : List PathStep) :
    keysAt path (Value.merge v w) =
      keysAt path v ++ (keysAt path w).filter (· ∉ keysAt path v) := by
  have hat := h.at?_merge hw path
  cases ha : v.at? path with
  | none =>
    rw [ha, Option.merge_none_left] at hat
    rw [keysAt, hat, ← keysAt, keysAt_of_at?_eq_none ha]
    simp
  | some a =>
    cases hb : w.at? path with
    | none =>
      rw [ha, hb, Option.merge_none_right] at hat
      rw [keysAt_of_at? hat, keysAt_of_at? ha, keysAt_of_at?_eq_none hb, List.filter_nil,
        List.append_nil]
    | some b =>
      rw [ha, hb] at hat
      rw [keysAt_of_at? hat, keysAt_of_at? ha, keysAt_of_at? hb]
      exact keys_merge (hasUniqueKeys_at? hw hb) (h path a b ha hb)

/-- Two values may be merged before a union is taken. -/
lemma isLeftmostUnion (h : Compatible v w) (hw : w.hasUniqueKeys)
    (hu : IsLeftmostUnion (Value.merge v w :: vs) u) : IsLeftmostUnion (v :: w :: vs) u where
  isSome_at?_iff path := by
    rw [hu.isSome_at?_iff, List.exists_mem_cons_iff, List.exists_mem_cons_iff,
      List.exists_mem_cons_iff, isSome_at?_merge_iff hw, or_assoc]
    simp [h.agreeBefore path]
  leaf_iff path x hleaf := by
    rw [hu.leaf_iff path x hleaf]
    simp only [List.findSome?_cons]
    rw [h.at?_merge hw]
    cases ha : v.at? path with
    | none => rw [Option.merge_none_left]
    | some a =>
      cases hb : w.at? path with
      | none => rw [Option.merge_none_right]
      | some b =>
        -- Only of objects and arrays there is more than the first one has.
        change some (Value.merge a b) = some x ↔ some a = some x
        rw [Option.some.injEq, Option.some.injEq]
        constructor
        · rintro rfl
          rw [shape_merge] at hleaf
          exact (merge_of_leaf hleaf b).symm
        · rintro rfl
          exact merge_of_leaf hleaf b
  keysAt_eq path := by
    rw [hu.keysAt_eq, List.flatMap_cons, h.keysAt_merge hw, eraseDups_append_filter,
      List.flatMap_cons, List.flatMap_cons, List.append_assoc]

end Compatible

namespace AreMergeable

lemma tail (h : AreMergeable (v :: vs)) : AreMergeable vs :=
  ⟨fun w hw => h.hasUniqueKeys w (List.mem_cons_of_mem v hw), (List.pairwise_cons.1 h.compatible).2⟩

lemma head (h : AreMergeable (v :: vs)) : v.hasUniqueKeys :=
  h.hasUniqueKeys v List.mem_cons_self

lemma compatible_head (h : AreMergeable (v :: vs)) (hw : w ∈ vs) : Compatible v w :=
  (List.pairwise_cons.1 h.compatible).1 w hw

/-- Two of the values may be merged first. -/
lemma merge (h : AreMergeable (v :: w :: vs)) : AreMergeable (Value.merge v w :: vs) := by
  have hw := h.tail.head
  refine ⟨?_, List.pairwise_cons.2 ⟨fun u hu => ?_, h.tail.tail.compatible⟩⟩
  · rintro u hu
    rcases List.mem_cons.1 hu with rfl | hu
    · exact hasUniqueKeys_merge h.head hw
    · exact h.tail.tail.hasUniqueKeys u hu
  · exact (h.compatible_head List.mem_cons_self).merge hw
      (h.compatible_head (List.mem_cons_of_mem w hu)) (h.tail.compatible_head hu)

/-- One value after the other is merged into the union of those before. -/
lemma isLeftmostUnion_foldl (h : AreMergeable (v :: vs)) :
    IsLeftmostUnion (v :: vs) (vs.foldl Value.merge v) := by
  induction vs generalizing v with
  | nil => exact isLeftmostUnion_singleton h.head
  | cons w vs ih =>
    exact (h.compatible_head List.mem_cons_self).isLeftmostUnion h.tail.head (ih h.merge)

/-- A beginning of the list may be merged first. -/
lemma foldl (h : AreMergeable (v :: vs ++ ws)) : AreMergeable (vs.foldl Value.merge v :: ws) := by
  induction vs generalizing v with
  | nil => exact h
  | cons w vs ih => exact ih h.merge

/-- Values may be merged among each other before they are merged into one that comes before. -/
lemma merge_foldl (h : AreMergeable (u :: v :: vs)) :
    Value.merge u (vs.foldl Value.merge v) = vs.foldl Value.merge (Value.merge u v) := by
  induction vs generalizing v with
  | nil => rfl
  | cons w vs ih =>
    have huv : Compatible u v := h.compatible_head List.mem_cons_self
    have huw : Compatible u w := h.compatible_head (by simp)
    have hvw : Compatible v w := h.tail.compatible_head List.mem_cons_self
    have hmerged : AreMergeable (u :: Value.merge v w :: vs) := by
      refine ⟨List.forall_mem_cons.2 ⟨h.head, h.tail.merge.hasUniqueKeys⟩,
        List.pairwise_cons.2 ⟨List.forall_mem_cons.2 ⟨?_, fun x hx => ?_⟩,
          h.tail.merge.compatible⟩⟩
      · exact (hvw.merge h.tail.tail.head huv.symm huw.symm).symm
      · exact h.compatible_head (by simp [hx])
    rw [List.foldl_cons, List.foldl_cons, ih hmerged,
      merge_assoc h.head h.tail.head h.tail.tail.head huv huw hvw]

end AreMergeable

/-- A value comes about by merging the values of a list in some grouping. -/
inductive GroupedInto : List Value → Value → Prop
  /-- A value by itself. -/
  | one (v : Value) : GroupedInto [v] v
  /-- Two groups beside each other. -/
  | join {vs ws : List Value} {v w : Value} :
      GroupedInto vs v → GroupedInto ws w → GroupedInto (vs ++ ws) (merge v w)

lemma GroupedInto.ne_nil (h : GroupedInto vs v) : vs ≠ [] := by
  induction h with
  | one => simp
  | join _ _ ih _ => exact List.append_ne_nil_of_left_ne_nil ih _

lemma AreMergeable.append (h : AreMergeable (vs ++ ws)) : AreMergeable vs ∧ AreMergeable ws := by
  obtain ⟨hvs, hws, -⟩ := List.pairwise_append.1 h.compatible
  exact ⟨⟨fun v hv => h.hasUniqueKeys v (List.mem_append_left _ hv), hvs⟩,
    ⟨fun w hw => h.hasUniqueKeys w (List.mem_append_right _ hw), hws⟩⟩

/-- Whatever the grouping, the same comes about. -/
lemma GroupedInto.mergeAll_eq (h : GroupedInto vs w) (hvs : AreMergeable vs) :
    mergeAll vs = some w := by
  induction h with
  | one v => rfl
  | @join xs ys v w hxs hys ih ih' =>
    obtain ⟨hleft, hright⟩ := hvs.append
    specialize ih hleft
    specialize ih' hright
    cases xs with
    | nil => exact absurd rfl hxs.ne_nil
    | cons x xs =>
      cases ys with
      | nil => exact absurd rfl hys.ne_nil
      | cons y ys =>
        obtain rfl := Option.some.inj ih
        obtain rfl := Option.some.inj ih'
        rw [AreMergeable.merge_foldl hvs.foldl, List.cons_append, mergeAll, List.foldl_append,
          List.foldl_cons]

/-- **Merging is a union in which the first value wins.**  To merge a value with itself, or to
merge one in again, changes nothing, and the leaves of the first value stay.  If any two values of
a list are compatible, they are merged to what has all paths of all of them, has at its leaves what
the first one that has the path has there, and has the keys of its objects in the order of their
first appearance; and however the values are grouped, the same comes about. -/
theorem mergeAll_leftmost :
    (∀ v w : Value, v.hasUniqueKeys → w.hasUniqueKeys →
      merge v v = v ∧ merge (merge v w) w = merge v w ∧
      ∀ path u, v.at? path = some u → u.shape = .leaf → (merge v w).at? path = some u) ∧
    (∀ a b c : Value, AreMergeable [a, b, c] → merge (merge a b) c = merge a (merge b c)) ∧
    ∀ vs, vs ≠ [] → AreMergeable vs →
      ∃ w, mergeAll vs = some w ∧ IsLeftmostUnion vs w ∧ ∀ w', GroupedInto vs w' → w' = w := by
  refine ⟨fun v w hv hw => ?pair, fun a b c h => ?assoc, fun vs hne h => ?union⟩
  case pair =>
    exact ⟨merge_self hv, merge_merge_self hv hw, fun path u hu => at?_merge_of_leaf hw hu⟩
  case assoc =>
    have hbc := h.tail.compatible_head (w := c) (by simp)
    exact merge_assoc h.head h.tail.head h.tail.tail.head (h.compatible_head (by simp))
      (h.compatible_head (by simp)) hbc
  case union =>
    obtain ⟨v, vs, rfl⟩ := List.exists_cons_of_ne_nil hne
    refine ⟨_, rfl, h.isLeftmostUnion_foldl, fun w' hw' => ?_⟩
    exact (Option.some.inj (hw'.mergeAll_eq h)).symm

/-! ### Three branches -/

lemma compatible_of_child? (hshape : v.shape = w.shape)
    (h : ∀ step a b, v.child? step = some a → w.child? step = some b → Compatible a b) :
    Compatible v w := by
  intro path x y hx hy
  cases path with
  | nil =>
    obtain rfl := Option.some.inj hx
    obtain rfl := Option.some.inj hy
    exact hshape
  | cons step path =>
    obtain ⟨a, ha, hx⟩ := exists_child?_of_at? hx
    obtain ⟨b, hb, hy⟩ := exists_child?_of_at? hy
    exact h step a b ha hb path x y hx hy

lemma compatible_of_leaf (hv : v.shape = .leaf) (hw : w.shape = .leaf) : Compatible v w :=
  compatible_of_child? (hv.trans hw.symm) fun step a b ha => by simp [child?_of_leaf hv] at ha

lemma compatible_object {fields others : Fields}
    (h : ∀ field ∈ fields, ∀ w, others.lookup field.1 = some w → Compatible field.2 w) :
    Compatible (object fields) (object others) := by
  refine compatible_of_child? rfl fun step a b ha hb => ?_
  cases step with
  | key name => exact h (name, a) (Fields.mem_of_lookup ha) b hb
  | index => simp [child?] at ha

namespace Branches

/-- What a first branch makes of a value. -/
def first : Value := .object [("x", .integer 1), ("page", .object [("size", .integer 10)])]

/-- What a second branch makes of it. -/
def second : Value := .object [
  ("y", .integer 2), ("page", .object [("sort", .bool true), ("size", .integer 20)])]

/-- What a third branch makes of it. -/
def third : Value := .object [("y", .integer 3), ("x", .null)]

/-- All three merged. -/
def merged : Value := .object [
  ("x", .integer 1), ("page", .object [("size", .integer 10), ("sort", .bool true)]),
  ("y", .integer 2)]

lemma areMergeable : AreMergeable [first, second, third] where
  hasUniqueKeys := by decide
  compatible := by
    have hsecond : Compatible first second :=
      compatible_object <| List.forall_mem_cons.2 ⟨fun _ hw => (by cases hw),
        List.forall_mem_singleton.2 fun _ hw => by
          obtain rfl := Option.some.inj hw
          exact compatible_object <| List.forall_mem_singleton.2 fun _ hw => by
            obtain rfl := Option.some.inj hw
            exact compatible_of_leaf rfl rfl⟩
    have hthird : Compatible first third :=
      compatible_object <| List.forall_mem_cons.2 ⟨fun _ hw => by
        obtain rfl := Option.some.inj hw
        exact compatible_of_leaf rfl rfl, List.forall_mem_singleton.2 fun _ hw => by cases hw⟩
    have hlast : Compatible second third :=
      compatible_object <| List.forall_mem_cons.2 ⟨fun _ hw => by
        obtain rfl := Option.some.inj hw
        exact compatible_of_leaf rfl rfl, List.forall_mem_singleton.2 fun _ hw => by cases hw⟩
    simp [hsecond, hthird, hlast]

end Branches

open Branches in
/-- The branches are merged to the same in either grouping, and merging one of them in again changes
nothing. -/
theorem branches_are_united :
    AreMergeable [first, second, third] ∧
    mergeAll [first, second, third] = some merged ∧ IsLeftmostUnion [first, second, third] merged ∧
    merge (merge first second) third = merged ∧ merge first (merge second third) = merged ∧
    merge (merge first second) second = merge first second ∧
    (merge first second).at? [.key "page", .key "size"] = some (integer 10) := by
  obtain ⟨hpair, hassoc, hunion⟩ := mergeAll_leftmost
  obtain ⟨w, hw, hleftmost, -⟩ := hunion [first, second, third] (by simp) areMergeable
  obtain rfl : merged = w := Option.some.inj hw
  obtain ⟨-, hagain, hleaf⟩ := hpair first second (by decide) (by decide)
  exact ⟨areMergeable, rfl, hleftmost, rfl, (hassoc first second third areMergeable).symm, hagain,
    hleaf _ _ rfl rfl⟩

end Value

end ApiContract
