/-
# Values with their keys in another order

The keys of an object come in an order that can be seen, but that means nothing.  Two values that
differ in nothing else, at whatever depth, look the same to everything that asks for the kind of a
value, for a leaf, for what stands under a key or for equality.
-/
import ApiContract.Proofs.Value.Rearranged
import ApiContract.Proofs.Value.Refinement

namespace ApiContract

namespace Value

mutual

/-- A value is another one with the keys of its objects in another order.  The items of arrays
keep their places, and every object has each of its keys once. -/
def Reordered : Value → Value → Prop
  | array items, w => ∃ items', w = array items' ∧ ReorderedItems items items'
  | object fields, w => ∃ kept fields', w = object fields' ∧ (Fields.keys fields).Nodup ∧
      ReorderedFields fields kept ∧ kept.Perm fields'
  | v, w => w = v

/-- Items are reordered one by one. -/
def ReorderedItems : List Value → List Value → Prop
  | [], items' => items' = []
  | v :: items, items' => ∃ w rest, items' = w :: rest ∧ Reordered v w ∧ ReorderedItems items rest

/-- Fields are reordered one by one, under the same keys. -/
def ReorderedFields : List (String × Value) → Fields → Prop
  | [], fields' => fields' = []
  | (key, v) :: fields, fields' =>
    ∃ w rest, fields' = (key, w) :: rest ∧ Reordered v w ∧ ReorderedFields fields rest

end

/-- A field is another one with a reordered value. -/
def ReorderedField (field field' : String × Value) : Prop :=
  field.1 = field'.1 ∧ Reordered field.2 field'.2

lemma reorderedItems_iff {items items' : List Value} :
    ReorderedItems items items' ↔ List.Forall₂ Reordered items items' := by
  induction items generalizing items' with
  | nil => simp [ReorderedItems]
  | cons v items ih =>
    rw [ReorderedItems, List.forall₂_cons_left_iff]
    constructor
    · rintro ⟨w, rest, rfl, hw, hrest⟩
      exact ⟨w, rest, hw, ih.1 hrest, rfl⟩
    · rintro ⟨w, rest, hw, hrest, rfl⟩
      exact ⟨w, rest, rfl, hw, ih.2 hrest⟩

lemma reorderedFields_iff {fields fields' : Fields} :
    ReorderedFields fields fields' ↔ List.Forall₂ ReorderedField fields fields' := by
  induction fields generalizing fields' with
  | nil => simp [ReorderedFields]
  | cons field fields ih =>
    obtain ⟨key, v⟩ := field
    rw [ReorderedFields, List.forall₂_cons_left_iff]
    constructor
    · rintro ⟨w, rest, rfl, hw, hrest⟩
      exact ⟨(key, w), rest, ⟨rfl, hw⟩, ih.1 hrest, rfl⟩
    · rintro ⟨⟨key', w⟩, rest, ⟨rfl, hw⟩, hrest, rfl⟩
      exact ⟨w, rest, rfl, hw, ih.2 hrest⟩

lemma reordered_array_iff {items : List Value} {w : Value} :
    Reordered (array items) w ↔
      ∃ items', w = array items' ∧ List.Forall₂ Reordered items items' := by
  simp only [Reordered, reorderedItems_iff]

lemma reordered_object_iff {fields : Fields} {w : Value} :
    Reordered (object fields) w ↔ ∃ fields', w = object fields' ∧
      (Fields.keys fields).Nodup ∧ Rearranged ReorderedField fields fields' := by
  simp only [Reordered, reorderedFields_iff]
  constructor
  · rintro ⟨kept, fields', rfl, hnodup, hkept, hperm⟩
    exact ⟨fields', rfl, hnodup, kept, hkept, hperm⟩
  · rintro ⟨fields', rfl, hnodup, kept, hkept, hperm⟩
    exact ⟨kept, fields', rfl, hnodup, hkept, hperm⟩

lemma reordered_leaf_iff {v w : Value} (hleaf : ¬ v.isContainer) :
    Reordered v w ↔ w = v := by
  cases v <;> simp_all [Reordered, isContainer]

/-- What two values look like one of which is the other reordered. -/
inductive Alike : Value → Value → Prop
  | array {items items' : List Value} :
      List.Forall₂ Reordered items items' → Alike (array items) (array items')
  | object {fields fields' : Fields} :
      (Fields.keys fields).Nodup → Rearranged ReorderedField fields fields' →
      Alike (object fields) (object fields')
  | leaf {v : Value} : ¬ v.isContainer → Alike v v

variable {v v' w w' : Value} {items items' : List Value} {fields fields' : Fields}
  {key : String}

lemma reordered_iff_alike : v.Reordered v' ↔ v.Alike v' := by
  constructor
  · intro h
    by_cases hleaf : v.isContainer
    · cases v with
      | array items =>
        obtain ⟨items', rfl, hitems⟩ := reordered_array_iff.1 h
        exact .array hitems
      | object fields =>
        obtain ⟨fields', rfl, hnodup, hfields⟩ := reordered_object_iff.1 h
        exact .object hnodup hfields
      | _ => simp [isContainer] at hleaf
    · obtain rfl := (reordered_leaf_iff hleaf).1 h
      exact .leaf hleaf
  · intro h
    cases h with
    | array hitems => exact reordered_array_iff.2 ⟨_, rfl, hitems⟩
    | object hnodup hfields => exact reordered_object_iff.2 ⟨_, rfl, hnodup, hfields⟩
    | leaf hleaf => exact (reordered_leaf_iff hleaf).2 rfl

lemma Reordered.alike (h : v.Reordered v') : v.Alike v' :=
  reordered_iff_alike.1 h

lemma keys_perm (h : Rearranged ReorderedField fields fields') :
    (Fields.keys fields).Perm (Fields.keys fields') :=
  h.map_perm fun _ _ hfield => hfield.1

lemma Reordered.symm (h : v.Reordered v') : v'.Reordered v := by
  induction v using partOf_wellFounded.induction generalizing v' with
  | _ v ih =>
    rw [reordered_iff_alike]
    cases h.alike with
    | array hitems =>
      have hback : List.Forall₂ (fun w w' => Reordered w' w) _ _ :=
        forall₂_imp_mem hitems fun w hw _ _ hr => ih w (.item hw) hr
      exact .array hback.flip
    | object hnodup hfields =>
      refine .object ((keys_perm hfields).nodup_iff.1 hnodup) ?_
      have hback : Rearranged (fun field field' => ReorderedField field' field) _ _ :=
        hfields.imp fun field hfield field' _ hr =>
          ⟨hr.1.symm, ih field.2 (.field hfield) hr.2⟩
      exact hback.symm fun _ _ => id
    | leaf hleaf => exact .leaf hleaf

/-! ### The reverse order -/

mutual

/-- A value with the keys of every object in reverse. -/
def reverseKeys : Value → Value
  | array items => array (reverseItems items)
  | object fields => object (reverseFields fields).reverse
  | v => v

/-- Items with the keys of every object in reverse. -/
def reverseItems : List Value → List Value
  | [] => []
  | v :: items => reverseKeys v :: reverseItems items

/-- Fields in their places, with the keys of every object inside them in reverse. -/
def reverseFields : List (String × Value) → Fields
  | [] => []
  | (key, v) :: fields => (key, reverseKeys v) :: reverseFields fields

end

lemma forall₂_reverseItems (h : ∀ v ∈ items, v.Reordered v.reverseKeys) :
    List.Forall₂ Reordered items (reverseItems items) := by
  induction items with
  | nil => exact .nil
  | cons v items ih => exact .cons (h v (by simp)) (ih fun w hw => h w (List.mem_cons_of_mem _ hw))

lemma forall₂_reverseFields (h : ∀ field ∈ fields, field.2.Reordered field.2.reverseKeys) :
    List.Forall₂ ReorderedField fields (reverseFields fields) := by
  induction fields with
  | nil => exact .nil
  | cons field fields ih =>
    exact .cons ⟨rfl, h field (by simp)⟩ (ih fun g hg => h g (List.mem_cons_of_mem _ hg))

/-- The keys may come in reverse, as long as objects have each of them once. -/
lemma reordered_reverseKeys (h : v.hasUniqueKeys) : v.Reordered v.reverseKeys := by
  induction v using partOf_wellFounded.induction with
  | _ v ih =>
    have hpart : ∀ w, PartOf w v → w.Reordered w.reverseKeys :=
      fun w hw => ih w hw (hasUniqueKeys_of_partOf h hw)
    rw [reordered_iff_alike]
    cases v with
    | array items => exact .array (forall₂_reverseItems fun w hw => hpart w (.item hw))
    | object fields =>
      exact .object (nodup_of_hasUniqueKeys h) ⟨reverseFields fields,
        forall₂_reverseFields fun field hfield => hpart field.2 (.field hfield),
        (List.reverse_perm _).symm⟩
    | null | bool | integer | number | string | date | dateTime | bytes | ip =>
      exact .leaf (by simp [isContainer])

/-! ## What does not see the order of keys -/

/-- What does not look into arrays and objects finds the same. -/
lemma Reordered.view_eq {α : Type} (h : v.Reordered v') (view : Value → α)
    (harray : ∀ items items', view (array items) = view (array items'))
    (hobject : ∀ fields fields', view (object fields) = view (object fields')) :
    view v = view v' := by
  cases h.alike with
  | array => exact harray _ _
  | object => exact hobject _ _
  | leaf => rfl

lemma Reordered.eq_of_leaf (h : v.Reordered v') (hleaf : ¬ v.isContainer) : v' = v :=
  (reordered_leaf_iff hleaf).1 h

lemma Reordered.ne_object (h : v.Reordered v') (hv : ∀ fields, v ≠ object fields)
    (fields : Fields) : v' ≠ object fields := by
  cases h.alike with
  | array => simp
  | object => exact absurd rfl (hv _)
  | leaf => exact hv fields

lemma Reordered.ne_array (h : v.Reordered v') (hv : ∀ items, v ≠ array items)
    (items : List Value) : v' ≠ array items := by
  cases h.alike with
  | array => exact absurd rfl (hv _)
  | object => simp
  | leaf => exact hv items

lemma Reordered.nodup (h : (object fields).Reordered (object fields')) :
    (Fields.keys fields).Nodup := by
  cases h.alike with
  | object hnodup => exact hnodup
  | leaf hleaf => simp [isContainer] at hleaf

lemma Reordered.rearranged (h : (object fields).Reordered (object fields')) :
    Rearranged ReorderedField fields fields' := by
  cases h.alike with
  | object _ hfields => exact hfields
  | leaf hleaf => simp [isContainer] at hleaf

/-- Under a key stand reordered values. -/
lemma Reordered.exists_lookup (h : (object fields).Reordered (object fields'))
    (hv : fields.lookup key = some v) : ∃ v', fields'.lookup key = some v' ∧ v.Reordered v' := by
  obtain ⟨⟨key', v'⟩, hmem, rfl, hr⟩ := h.rearranged.exists_right (Fields.mem_of_lookup hv)
  have hnodup' : (Fields.keys fields').Nodup := (keys_perm h.rearranged).nodup_iff.1 h.nodup
  exact ⟨v', Fields.lookup_of_mem hnodup' hmem, hr⟩

lemma Reordered.lookup_eq_none_iff (h : (object fields).Reordered (object fields')) :
    fields.lookup key = none ↔ fields'.lookup key = none := by
  rw [Fields.lookup_eq_none_iff_not_mem, Fields.lookup_eq_none_iff_not_mem,
    (keys_perm h.rearranged).mem_iff]

/-- What is looked up under a key and does not look into arrays and objects is the same. -/
lemma Reordered.lookup_bind_eq {α : Type} (h : (object fields).Reordered (object fields'))
    (view : Value → Option α)
    (harray : ∀ items items', view (array items) = view (array items'))
    (hobject : ∀ fields fields', view (object fields) = view (object fields')) :
    (fields.lookup key).bind view = (fields'.lookup key).bind view := by
  cases hv : fields.lookup key with
  | none => rw [h.lookup_eq_none_iff.1 hv]
  | some v =>
    obtain ⟨v', hv', hr⟩ := h.exists_lookup hv
    rw [hv', Option.bind_some, Option.bind_some, hr.view_eq view harray hobject]

/-! ### Sizes -/

lemma sizeItems_eq_foldr (items : List Value) :
    sizeItems items = (items.map size).foldr (· + ·) 0 := by
  induction items with
  | nil => rfl
  | cons v items ih => rw [sizeItems, ih, List.map_cons, List.foldr_cons]

lemma sizeFields_eq_foldr (fields : Fields) :
    sizeFields fields = (fields.map fun field => field.2.size).foldr (· + ·) 0 := by
  induction fields with
  | nil => rfl
  | cons field fields ih => rw [sizeFields, ih, List.map_cons, List.foldr_cons]

lemma Reordered.size_eq (h : v.Reordered v') : v.size = v'.size := by
  induction v using partOf_wellFounded.induction generalizing v' with
  | _ v ih =>
    cases h.alike with
    | array hitems =>
      rw [size, size, sizeItems_eq_foldr, sizeItems_eq_foldr]
      have hsizes : Rearranged (fun v v' : Value => v.size = v'.size) _ _ :=
        (Rearranged.of_forall₂ hitems).imp fun v hv _ _ hr => ih v (.item hv) hr
      rw [(hsizes.map_perm fun _ _ => id).foldr_eq]
    | object _ hfields =>
      rw [size, size, sizeFields_eq_foldr, sizeFields_eq_foldr]
      have hsizes : Rearranged (fun field field' : String × Value => field.2.size = field'.2.size)
          _ _ := hfields.imp fun field hfield _ _ hr => ih field.2 (.field hfield) hr.2
      rw [(hsizes.map_perm fun _ _ => id).foldr_eq]
    | leaf => rfl

/-! ### Equality -/

lemma sameFields_iff {gs : Fields} :
    sameFields fields gs ↔
      ∀ field ∈ fields, ∃ w, gs.lookup field.1 = some w ∧ field.2.same w := by
  induction fields with
  | nil => simp [sameFields]
  | cons field fields ih =>
    obtain ⟨key, v⟩ := field
    rw [sameFields, Bool.and_eq_true, ih, List.forall_mem_cons]
    cases gs.lookup key <;> simp

/-- Items that are equal stay equal if this holds of them one by one. -/
lemma sameItems_of_reordered {ys ys' : List Value} (hitems : List.Forall₂ Reordered items items')
    (hys : List.Forall₂ Reordered ys ys')
    (hone : ∀ v ∈ items, ∀ v' w w', v.Reordered v' → w.Reordered w' → v.same w → v'.same w')
    (h : sameItems items ys) : sameItems items' ys' := by
  induction hitems generalizing ys ys' with
  | nil =>
    cases hys with
    | nil => rfl
    | cons => simp [sameItems] at h
  | cons hv _ ih =>
    cases hys with
    | nil => simp [sameItems] at h
    | cons hw hys =>
      rw [sameItems, Bool.and_eq_true] at h ⊢
      exact ⟨hone _ (by simp) _ _ _ hv hw h.1,
        ih hys (fun v hmem => hone v (List.mem_cons_of_mem _ hmem)) h.2⟩

/-- Values that are equal stay equal. -/
lemma Reordered.same_of_same (hv : v.Reordered v') (hw : w.Reordered w') (h : v.same w) :
    v'.same w' := by
  induction v using partOf_wellFounded.induction generalizing v' w w' with
  | _ v ih =>
    cases hv.alike with
    | array hitems =>
      cases hw.alike with
      | array hys =>
        rw [Value.same] at h ⊢
        exact sameItems_of_reordered hitems hys
          (fun v hmem _ _ _ hv hw hsame => ih v (.item hmem) hv hw hsame) h
      | object => simp [Value.same] at h
      | leaf hleaf => cases w <;> simp_all [Value.same, isContainer]
    | object _ hfields =>
      cases hw.alike with
      | object _ hgs =>
        rw [Value.same, Bool.and_eq_true, sameFields_iff, beq_iff_eq] at h ⊢
        refine ⟨by rw [← hfields.length_eq, ← hgs.length_eq, h.1], fun field' hfield' => ?_⟩
        obtain ⟨field, hfield, hkey, hr⟩ := hfields.exists_left hfield'
        obtain ⟨w, hlookup, hsame⟩ := h.2 field hfield
        obtain ⟨w', hlookup', hw'⟩ := hw.exists_lookup hlookup
        exact ⟨w', hkey ▸ hlookup', ih field.2 (.field hfield) hr hw' hsame⟩
      | array => simp [Value.same] at h
      | leaf hleaf => cases w <;> simp_all [Value.same, isContainer]
    | leaf hleaf =>
      cases hw.alike with
      | array => cases v <;> simp_all [Value.same, isContainer]
      | object => cases v <;> simp_all [Value.same, isContainer]
      | leaf => exact h

/-- Equality does not see the order of keys. -/
lemma Reordered.beq_eq (hv : v.Reordered v') (hw : w.Reordered w') : (v == w) = (v' == w') :=
  Bool.eq_iff_iff.2 ⟨hv.same_of_same hw, hv.symm.same_of_same hw.symm⟩

end Value

/-! ### Pointers -/

namespace Pointer

open Value

variable {v v' w : Value}

lemma exists_step? {part : List Char} (h : v.Reordered v') (hw : step? part v = some w) :
    ∃ w', step? part v' = some w' ∧ w.Reordered w' := by
  cases h.alike with
  | array hitems =>
    obtain ⟨i, hi, hw⟩ := Option.bind_eq_some_iff.1 hw
    obtain ⟨hlt, rfl⟩ := List.getElem?_eq_some_iff.1 hw
    have hlt' := hitems.length_eq ▸ hlt
    refine ⟨_, ?_, hitems.get hlt hlt'⟩
    rw [step?, hi, Option.bind_some, List.getElem?_eq_getElem hlt']
    rfl
  | object => exact h.exists_lookup hw
  | leaf hleaf => cases v <;> simp_all [step?, isContainer]

lemma exists_walk? {parts : List (List Char)} (h : v.Reordered v')
    (hw : walk? parts v = some w) : ∃ w', walk? parts v' = some w' ∧ w.Reordered w' := by
  induction parts generalizing v v' with
  | nil =>
    obtain rfl := Option.some.inj hw
    exact ⟨v', rfl, h⟩
  | cons part parts ih =>
    obtain ⟨u, hu, hw⟩ := Option.bind_eq_some_iff.1 hw
    obtain ⟨u', hu', hr⟩ := exists_step? h hu
    obtain ⟨w', hw', hr'⟩ := ih hr hw
    exact ⟨w', Option.bind_eq_some_iff.2 ⟨u', hu', hw'⟩, hr'⟩

/-- A pointer leads into a reordered document as it does into the document. -/
lemma exists_resolve? {pointer : List Char} (h : v.Reordered v')
    (hw : resolve? pointer v = some w) : ∃ w', resolve? pointer v' = some w' ∧ w.Reordered w' := by
  rw [resolve?] at hw
  split at hw
  · rename_i hrest
    obtain rfl := Option.some.inj hw
    exact ⟨v', by rw [resolve?, hrest], h⟩
  · obtain ⟨decoded, hdecoded, hw⟩ := Option.bind_eq_some_iff.1 hw
    obtain ⟨w', hw', hr⟩ := exists_walk? h hw
    exact ⟨w', by simp_all [resolve?], hr⟩

end Pointer

end ApiContract
