/-
# Equality of values

Two objects are compared from one side: they have equally many fields, and every field of the first
one has an equal one under its key in the second one.  Where keys are unique this says the same from
either side, because keys that are all found and equally many are all the keys there are.  So values
are equal if they have the same shape and equal parts wherever either of them has a part, and
equality is an equivalence that sees neither the order of keys nor which value comes first.

Doubles are left out: not every double equals itself, and an integer is compared with a double after
it has been rounded.
-/
import ApiContract.Proofs.Schema.Holds
import ApiContract.Proofs.Value.PathOverlay

namespace ApiContract

namespace Value

variable {a b c u v w : Value} {fields others : Fields} {items : List Value} {step : PathStep}

/-- A value without doubles whose objects have each of their keys once. -/
structure IsPlain (v : Value) : Prop where
  /-- There is no double in it. -/
  isExact : v.IsExact
  /-- No key comes twice in one object. -/
  hasUniqueKeys : v.hasUniqueKeys

namespace IsPlain

lemma child (h : v.IsPlain) (hu : v.child? step = some u) : u.IsPlain where
  isExact := h.isExact.child hu
  hasUniqueKeys := hasUniqueKeys_of_partOf h.hasUniqueKeys (partOf_of_child? hu)

lemma ne_number (h : v.IsPlain) (x : Float) : v ≠ number x :=
  fun heq => h.isExact [] x (congrArg some heq)

lemma item {i : Nat} (h : (array items).IsPlain) (hv : items[i]? = some v) : v.IsPlain :=
  h.child (show (array items).child? (.index i) = some v from hv)

lemma field {key : String} (h : (object fields).IsPlain) (hv : fields.lookup key = some v) :
    v.IsPlain :=
  h.child (show (object fields).child? (.key key) = some v from hv)

lemma nodup (h : (object fields).IsPlain) : (Fields.keys fields).Nodup :=
  nodup_of_hasUniqueKeys h.hasUniqueKeys

end IsPlain

lemma isExact_array (h : ∀ v ∈ items, v.IsExact) : (array items).IsExact := by
  intro path x hx
  cases path with
  | nil => simp [at?] at hx
  | cons step path =>
    obtain ⟨u, hu, hat⟩ := exists_child?_of_at? hx
    cases step with
    | key => simp [child?] at hu
    | index => exact h u (List.mem_of_getElem? hu) path x hat

/-! ## Equality, part by part -/

lemma sameItems_iff {others : List Value} :
    sameItems items others ↔
      ∀ i : Nat, Option.Rel (fun v w : Value => v == w) items[i]? others[i]? := by
  induction items generalizing others with
  | nil =>
    cases others with
    | nil => simp [sameItems]
    | cons w others =>
      refine ⟨fun h => by simp [sameItems] at h, fun h => ?_⟩
      cases h 0
  | cons v items ih =>
    cases others with
    | nil =>
      refine ⟨fun h => by simp [sameItems] at h, fun h => ?_⟩
      cases h 0
    | cons w others =>
      rw [sameItems, Bool.and_eq_true, ih]
      constructor
      · rintro ⟨hsame, hrest⟩ i
        cases i with
        | zero => exact .some hsame
        | succ i => exact hrest i
      · intro h
        cases h 0 with
        | some hsame => exact ⟨hsame, fun i => h (i + 1)⟩

/-- Different keys all of which are found among equally many others are all of those. -/
lemma keys_perm_of_subset (hnodup : (Fields.keys fields).Nodup)
    (hsub : Fields.keys fields ⊆ Fields.keys others) (hlength : fields.length = others.length) :
    (Fields.keys fields).Perm (Fields.keys others) := by
  refine (hnodup.subperm hsub).perm_of_length_le ?_
  simp [Fields.keys, hlength]

/-- Objects are equal if they have equal values under every key. -/
lemma same_object_iff (hnodup : (Fields.keys fields).Nodup) (hnodup' : (Fields.keys others).Nodup) :
    object fields == object others ↔
      ∀ key, Option.Rel (fun v w : Value => v == w) (fields.lookup key) (others.lookup key) := by
  change (object fields).same (object others) ↔ _
  rw [same, Bool.and_eq_true, beq_iff_eq, sameFields_iff]
  constructor
  · rintro ⟨hlength, hfound⟩ key
    have hsub : Fields.keys fields ⊆ Fields.keys others := by
      intro k hk
      obtain ⟨field, hfield, rfl⟩ := List.mem_map.1 hk
      obtain ⟨w, hw, -⟩ := hfound field hfield
      exact List.mem_map.2 ⟨_, Fields.mem_of_lookup hw, rfl⟩
    cases hv : fields.lookup key with
    | some v =>
      obtain ⟨w, hw, hsame⟩ := hfound (key, v) (Fields.mem_of_lookup hv)
      rw [hw]
      exact .some hsame
    | none =>
      -- Nothing is left over on the right, since there are not more keys than on the left.
      have hkeys := keys_perm_of_subset hnodup hsub hlength
      rw [Fields.lookup_eq_none_iff_not_mem, hkeys.mem_iff,
        ← Fields.lookup_eq_none_iff_not_mem] at hv
      rw [hv]
      exact .none
  · intro h
    have hkeys : (Fields.keys fields).Perm (Fields.keys others) := by
      refine (List.perm_ext_iff_of_nodup hnodup hnodup').2 fun key => ?_
      rw [← not_iff_not, ← Fields.lookup_eq_none_iff_not_mem, ← Fields.lookup_eq_none_iff_not_mem]
      have hkey := h key
      generalize fields.lookup key = found, others.lookup key = found' at hkey
      cases hkey <;> simp
    refine ⟨by simpa [Fields.keys] using hkeys.length_eq, fun field hfield => ?_⟩
    have hkey := h field.1
    rw [Fields.lookup_of_mem hnodup hfield] at hkey
    generalize others.lookup field.1 = found at hkey
    cases hkey with
    | some hsame => exact ⟨_, rfl, hsame⟩

/-- Values with parts are equal if they have the same shape and equal parts. -/
lemma beq_iff_of_parts (hv : v.IsPlain) (hw : w.IsPlain) (hparts : v.shape ≠ .leaf) :
    v == w ↔ v.shape = w.shape ∧
      ∀ step, Option.Rel (fun v w : Value => v == w) (v.child? step) (w.child? step) := by
  by_cases hshape : v.shape = w.shape
  · simp only [hshape, true_and]
    cases v with
    | array items =>
      cases w <;> simp only [shape, reduceCtorEq] at hshape
      refine sameItems_iff.trans ⟨fun h step => ?_, fun h i => h (.index i)⟩
      cases step with
      | key => exact .none
      | index i => exact h i
    | object fields =>
      cases w <;> simp only [shape, reduceCtorEq] at hshape
      refine (same_object_iff hv.nodup hw.nodup).trans ⟨fun h step => ?_, fun h key => h (.key key)⟩
      cases step with
      | key name => exact h name
      | index => exact .none
    | null | bool | integer | number | string | date | dateTime | bytes | ip =>
      exact absurd rfl hparts
  · exact ⟨fun h => absurd (shape_eq_of_same h) hshape, fun h => absurd h.1 hshape⟩

/-! ## An equivalence -/

/-- **Every value equals itself.** -/
theorem beq_self (h : v.IsPlain) : v == v := by
  induction v using partOf_wellFounded.induction with
  | _ v ih =>
    by_cases hleaf : v.shape = .leaf
    · exact same_self_of_leaf hleaf h.ne_number
    · refine (beq_iff_of_parts h h hleaf).2 ⟨rfl, fun step => ?_⟩
      cases hu : v.child? step with
      | none => exact .none
      | some u => exact .some (ih u (partOf_of_child? hu) (h.child hu))

lemma beq_symm (hv : v.IsPlain) (hw : w.IsPlain) (h : v == w) : w == v := by
  induction v using partOf_wellFounded.induction generalizing w with
  | _ v ih =>
    have hshape := shape_eq_of_same h
    by_cases hleaf : v.shape = .leaf
    · exact same_of_same_of_leaf (hshape ▸ hleaf) hw.ne_number hw.ne_number hv.ne_number
        (beq_self hw) h
    · refine (beq_iff_of_parts hw hv (hshape ▸ hleaf)).2 ⟨hshape.symm, fun step => ?_⟩
      have hparts := ((beq_iff_of_parts hv hw hleaf).1 h).2 step
      cases hu : v.child? step <;> cases hx : w.child? step <;> rw [hu, hx] at hparts
      case none.none => exact .none
      case some.some u x =>
        cases hparts with
        | some hsame =>
          exact .some (ih u (partOf_of_child? hu) (hv.child hu) (hw.child hx) hsame)
      all_goals cases hparts

/-- **It does not matter which value comes first.** -/
theorem beq_comm (hv : v.IsPlain) (hw : w.IsPlain) : (v == w) = (w == v) :=
  Bool.eq_iff_iff.2 ⟨beq_symm hv hw, beq_symm hw hv⟩

/-- **Values that equal the same one are equal.** -/
theorem beq_trans (ha : a.IsPlain) (hb : b.IsPlain) (hc : c.IsPlain) (hab : a == b)
    (hbc : b == c) : a == c := by
  induction a using partOf_wellFounded.induction generalizing b c with
  | _ a ih =>
    have hshape := shape_eq_of_same hab
    by_cases hleaf : a.shape = .leaf
    · exact same_of_same_of_leaf (hshape ▸ hleaf) hb.ne_number ha.ne_number hc.ne_number hab
        (beq_symm hb hc hbc)
    · refine (beq_iff_of_parts ha hc hleaf).2 ⟨hshape.trans (shape_eq_of_same hbc), fun step => ?_⟩
      have hleft := ((beq_iff_of_parts ha hb hleaf).1 hab).2 step
      have hright := ((beq_iff_of_parts hb hc (hshape ▸ hleaf)).1 hbc).2 step
      cases hx : a.child? step <;> cases hy : b.child? step <;> cases hz : c.child? step <;>
        rw [hx, hy] at hleft <;> rw [hy, hz] at hright
      case none.none.none => exact .none
      case some.some.some x y z =>
        cases hleft with
        | some hxy =>
          cases hright with
          | some hyz =>
            exact .some (ih x (partOf_of_child? hx) (ha.child hx) (hb.child hy) (hc.child hz) hxy
              hyz)
      all_goals first | cases hleft; done | cases hright

/-! ## What does not depend on which value comes first -/

variable {equal equal' : Value → Value → Bool}

lemma overlayFieldsBy_congr {base changes : Fields} (hnodup : (Fields.keys changes).Nodup)
    (h : ∀ key o v w, base.lookup key = some o → fields.lookup key = some v →
      changes.lookup key = some w → overlayBy equal o v w = overlayBy equal' o v w) :
    overlayFieldsBy equal base fields changes = overlayFieldsBy equal' base fields changes := by
  induction changes generalizing fields with
  | nil => rw [overlayFieldsBy, overlayFieldsBy]
  | cons change changes ih =>
    obtain ⟨key, w⟩ := change
    obtain ⟨hnot, hnodup⟩ := List.nodup_cons.1 hnodup
    -- The key does not come again, so what is set under it makes no difference later on.
    have hrest : ∀ x, overlayFieldsBy equal base (Fields.insert key x fields) changes =
        overlayFieldsBy equal' base (Fields.insert key x fields) changes := by
      refine fun x => ih hnodup fun k o v w' ho hv hw' => ?_
      have hne : k ≠ key := by
        rintro rfl
        exact hnot (List.mem_map.2 ⟨_, Fields.mem_of_lookup hw', rfl⟩)
      rw [Fields.lookup_insert_of_ne hne] at hv
      refine h k o v w' ho hv ?_
      rwa [List.lookup_cons, beq_false_of_ne hne]
    rw [overlayFieldsBy, overlayFieldsBy]
    cases hv : fields.lookup key with
    | none => exact hrest w
    | some v =>
      cases ho : base.lookup key with
      | none => exact hrest _
      | some o =>
        refine (hrest _).trans ?_
        rw [h key o v w ho hv List.lookup_cons_self]

lemma overlayItemsBy_congr {base changes : List Value}
    (h : ∀ (i : Nat) (o v w : Value), base[i]? = some o → items[i]? = some v →
      changes[i]? = some w → overlayBy equal o v w = overlayBy equal' o v w) :
    overlayItemsBy equal base items changes = overlayItemsBy equal' base items changes := by
  induction changes generalizing base items with
  | nil => rw [overlayItemsBy, overlayItemsBy]
  | cons w changes ih =>
    cases items with
    | nil => rw [overlayItemsBy, overlayItemsBy, ih (by simp)]
    | cons v items =>
      cases base with
      | nil => rw [overlayItemsBy, overlayItemsBy, ih (by simp)]
      | cons o base =>
        rw [overlayItemsBy, overlayItemsBy, h 0 o v w rfl rfl rfl, ih fun i => h (i + 1)]

/-- Values are laid over each other in the same way with any comparison that tells plain values
apart as equality does. -/
theorem overlayBy_eq (hequal : ∀ v w : Value, v.IsPlain → w.IsPlain → equal v w = (v == w))
    (ha : a.IsPlain) (hb : b.IsPlain) (hc : c.IsPlain) : overlayBy equal a b c = overlay a b c := by
  induction c using partOf_wellFounded.induction generalizing a b with
  | _ c ih =>
    unfold overlay overlayBy
    rw [hequal c a hc ha, hequal b a hb ha]
    refine ite_congr rfl (fun _ => rfl) fun _ => ite_congr rfl (fun _ => rfl) fun _ => ?_
    cases c with
    | array changes =>
      cases a <;> try rfl
      cases b <;> try rfl
      refine congrArg array (overlayItemsBy_congr fun i o v w ho hv hw => ?_)
      exact ih w (partOf_of_getElem? hw) (ha.item ho) (hb.item hv) (hc.item hw)
    | object changes =>
      cases a <;> try rfl
      cases b <;> try rfl
      refine congrArg object (overlayFieldsBy_congr hc.nodup fun key o v w ho hv hw => ?_)
      exact ih w (partOf_of_lookup hw) (ha.field ho) (hb.field hv) (hc.field hw)
    | null | bool | integer | number | string | date | dateTime | bytes | ip => rfl

end Value

namespace Constraint

open Value

variable {v : Value} {options items items' : List Value}

/-- Options may be compared from either side. -/
lemma enum_eq (hv : v.IsPlain) (hoptions : ∀ w ∈ options, w.IsPlain) :
    enum v (array options) =
      expect (options.any (v == ·)) s!"{v.text} is not one of {(array options).text}" := by
  have hany : options.any (· == v) = options.any (v == ·) := by
    rw [Bool.eq_iff_iff, List.any_eq_true, List.any_eq_true]
    refine exists_congr fun w => and_congr_right fun hw => ?_
    rw [beq_comm (hoptions w hw) hv]
  rw [enum, hany]

lemma uniqueItems_eq_ok_iff :
    uniqueItems (array items) (bool true) = .ok [] ↔ areDistinct items = true := by
  simp [uniqueItems, expect, array?]

/-- Items may be compared from either side. -/
lemma uniqueItems_iff (hitems : ∀ v ∈ items, v.IsPlain) :
    uniqueItems (array items) (bool true) = .ok [] ↔
      items.Pairwise fun earlier later => ¬ earlier == later := by
  rw [uniqueItems_eq_ok_iff, areDistinct_iff]
  refine List.Pairwise.iff_of_mem fun {v w} hv hw => ?_
  rw [beq_comm (hitems w hw) (hitems v hv)]

/-- Whether items are distinct does not depend on their order. -/
lemma uniqueItems_iff_of_perm (hitems : ∀ v ∈ items, v.IsPlain) (hperm : items.Perm items') :
    uniqueItems (array items') (bool true) = .ok [] ↔
      uniqueItems (array items) (bool true) = .ok [] := by
  rw [uniqueItems_iff hitems, uniqueItems_iff fun v hv => hitems v (hperm.mem_iff.2 hv)]
  have hsymm : (items.Pairwise fun v w => v ∈ items ∧ w ∈ items ∧ ¬ v == w) ↔
      items'.Pairwise fun v w => v ∈ items ∧ w ∈ items ∧ ¬ v == w := by
    refine hperm.pairwise_iff fun {v w} ⟨hv, hw, hne⟩ => ⟨hw, hv, ?_⟩
    rwa [beq_comm (hitems w hw) (hitems v hv)]
  have hmem : (items'.Pairwise fun v w => ¬ v == w) ↔
      items'.Pairwise fun v w => v ∈ items ∧ w ∈ items ∧ ¬ v == w :=
    List.Pairwise.iff_of_mem fun hv hw =>
      ⟨fun hne => ⟨hperm.mem_iff.2 hv, hperm.mem_iff.2 hw, hne⟩, fun h => h.2.2⟩
  rw [hmem, ← hsymm, ← List.Pairwise.and_mem]

end Constraint

namespace Value

/-- **Equality of values is an equivalence that does not see the order of keys.**  Therefore options
and items may be compared from either side, it does not depend on the order of items whether they
are distinct, and two changed copies of a value are laid over each other in the same way if they are
compared with it the other way round, at whatever depth. -/
theorem beq_equivalence (ha : a.IsPlain) (hb : b.IsPlain) (hc : c.IsPlain) :
    a == a ∧ (a == b) = (b == a) ∧ (a == b → b == c → a == c) ∧
    (∀ a' b', a.Reordered a' → b.Reordered b' → (a' == b') = (a == b)) ∧
    (∀ options, (∀ v ∈ options, v.IsPlain) → Constraint.enum a (array options) =
      Constraint.expect (options.any (a == ·))
        s!"{a.text} is not one of {(array options).text}") ∧
    (∀ items, (∀ v ∈ items, v.IsPlain) →
      (Constraint.uniqueItems (array items) (bool true) = .ok [] ↔
        items.Pairwise fun earlier later => ¬ earlier == later) ∧
      ∀ items', items.Perm items' →
        (Constraint.uniqueItems (array items') (bool true) = .ok [] ↔
          Constraint.uniqueItems (array items) (bool true) = .ok [])) ∧
    overlayBy (fun v w => w == v) a b c = overlay a b c where
  left := beq_self ha
  right := by
    refine ⟨beq_comm ha hb, beq_trans ha hb hc, fun a' b' ha' hb' => (ha'.beq_eq hb').symm,
      fun options hoptions => Constraint.enum_eq ha hoptions, fun items hitems => ?_, ?_⟩
    · exact ⟨Constraint.uniqueItems_iff hitems,
        fun items' hperm => Constraint.uniqueItems_iff_of_perm hitems hperm⟩
    · exact overlayBy_eq (fun v w hv hw => beq_comm hw hv) ha hb hc

namespace Booking

/-- A booking with a typed leaf and an object in an array. -/
def made : Value := object [
  ("key", bytes [7, 9]),
  ("guests", array [object [("name", string "Ada"), ("age", integer 36)]])]

/-- The same booking with all keys in another order. -/
def copied : Value := object [
  ("guests", array [object [("age", integer 36), ("name", string "Ada")]]),
  ("key", bytes [7, 9])]

/-- The booking of another guest. -/
def other : Value := object [
  ("guests", array [object [("name", string "Alan")]]),
  ("key", bytes [7, 9])]

lemma isPlain_made : made.IsPlain where
  isExact := isExact_object <| List.forall_mem_cons.2 ⟨isExact_of_leaf rfl (by simp),
    List.forall_mem_singleton.2 <| isExact_array <| List.forall_mem_singleton.2 <|
      isExact_object <| List.forall_mem_cons.2 ⟨isExact_of_leaf rfl (by simp),
        List.forall_mem_singleton.2 <| isExact_of_leaf rfl (by simp)⟩⟩
  hasUniqueKeys := rfl

lemma isPlain_copied : copied.IsPlain where
  isExact := isExact_object <| List.forall_mem_cons.2 ⟨
    isExact_array <| List.forall_mem_singleton.2 <|
      isExact_object <| List.forall_mem_cons.2 ⟨isExact_of_leaf rfl (by simp),
        List.forall_mem_singleton.2 <| isExact_of_leaf rfl (by simp)⟩,
    List.forall_mem_singleton.2 <| isExact_of_leaf rfl (by simp)⟩
  hasUniqueKeys := rfl

lemma isPlain_other : other.IsPlain where
  isExact := isExact_object <| List.forall_mem_cons.2 ⟨
    isExact_array <| List.forall_mem_singleton.2 <|
      isExact_object <| List.forall_mem_singleton.2 <| isExact_of_leaf rfl (by simp),
    List.forall_mem_singleton.2 <| isExact_of_leaf rfl (by simp)⟩
  hasUniqueKeys := rfl

end Booking

open Booking in
/-- A booking equals its copy from either side and is told apart from another one in either order,
and where a booking was only copied, the other one that was made of it is taken. -/
theorem bookings_are_told_apart :
    copied == made ∧ (made.reverseKeys == copied.reverseKeys) ∧
    Constraint.enum made (array [copied]) = .ok [] ∧
    Constraint.uniqueItems (array [other, made]) (bool true) = .ok [] ∧
    overlayBy (fun v w => w == v) made copied other = other := by
  obtain ⟨-, hcomm, -, hreordered, henum, hunique, hoverlay⟩ :=
    beq_equivalence isPlain_made isPlain_copied isPlain_other
  have hsame : made == copied := by decide
  refine ⟨hcomm ▸ hsame, ?_, ?_, ?_, ?_⟩
  · rw [hreordered _ _ (reordered_reverseKeys rfl) (reordered_reverseKeys rfl)]
    exact hsame
  · rw [henum [copied] (List.forall_mem_singleton.2 isPlain_copied), List.any_cons, hsame]
    rfl
  · have hplain : ∀ v ∈ [made, other], v.IsPlain :=
      List.forall_mem_cons.2 ⟨isPlain_made, List.forall_mem_singleton.2 isPlain_other⟩
    obtain ⟨hpairwise, hperm⟩ := hunique [made, other] hplain
    exact (hperm _ (List.Perm.swap _ _ _)).2 (hpairwise.2 (by decide))
  · rw [hoverlay]
    exact overlay_of_earlier_same (by decide) (hcomm ▸ hsame)

end Value

end ApiContract
