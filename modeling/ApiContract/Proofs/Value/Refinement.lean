/-
# Refined values

Validation may turn a text into the typed leaf it stands for and may add fields to an object.
Otherwise it changes nothing: a value that does no more than this to another one refines it.

Refinements of one value can be merged and laid over each other, and what comes out still
refines it.  Objects are refined field by field, so both operations are looked at as a series
of insertions, each of which has to fit the original object.
-/
import ApiContract.Proofs.Value.Part
import ApiContract.Proofs.Walk.Result

namespace ApiContract

/-! ## Fields -/

namespace Fields

variable {α : Type} {key : String} {a : α} {fields : List (String × α)}

lemma mem_keys_of_mem (h : (key, a) ∈ fields) : key ∈ keys fields :=
  List.mem_map_of_mem (f := Prod.fst) h

lemma lookup_eq_none_iff_not_mem : fields.lookup key = none ↔ key ∉ keys fields := by
  rw [List.lookup_eq_none_iff]
  constructor
  · rintro h hkey
    obtain ⟨field, hfield, rfl⟩ := List.mem_map.1 hkey
    simpa using h field hfield
  · rintro h ⟨k, b⟩ hfield
    rw [bne_iff_ne]
    rintro rfl
    exact h (mem_keys_of_mem hfield)

lemma lookup_of_mem (hnodup : (keys fields).Nodup) (h : (key, a) ∈ fields) :
    fields.lookup key = some a := by
  induction fields with
  | nil => simp at h
  | cons field fields ih =>
    obtain ⟨k, b⟩ := field
    obtain ⟨hnot, hnodup⟩ := List.nodup_cons.1 hnodup
    rcases List.mem_cons.1 h with heq | hmem
    · obtain ⟨rfl, rfl⟩ := Prod.mk.inj heq
      rw [List.lookup_cons_self]
    · -- The key comes later, so it is not the first one.
      have hne : key ≠ k := by
        rintro rfl
        exact hnot (mem_keys_of_mem hmem)
      rw [List.lookup_cons, beq_false_of_ne hne]
      exact ih hnodup hmem

lemma insert_append_of_not_mem {before : List (String × α)} (h : key ∉ keys before) :
    insert key a (before ++ fields) = before ++ insert key a fields := by
  induction before with
  | nil => rfl
  | cons field before ih =>
    obtain ⟨k, b⟩ := field
    obtain ⟨hne, hnot⟩ := not_or.1 (mt List.mem_cons.2 h)
    rw [List.cons_append, insert, if_neg (Ne.symm hne), ih hnot, List.cons_append]

/-- Setting a key to the value that it has changes nothing. -/
lemma insert_of_lookup (h : fields.lookup key = some a) : insert key a fields = fields := by
  induction fields with
  | nil => simp at h
  | cons field fields ih =>
    obtain ⟨k, b⟩ := field
    by_cases hk : k = key
    · subst hk
      rw [List.lookup_cons_self, Option.some.injEq] at h
      rw [insert, if_pos rfl, h]
    · rw [List.lookup_cons, beq_false_of_ne (Ne.symm hk)] at h
      rw [insert, if_neg hk, ih h]

/-- The keys of fields with one more are those before and that of the new field. -/
lemma mem_keys_insert {k : String} :
    k ∈ keys (insert key a fields) ↔ k = key ∨ k ∈ keys fields := by
  induction fields with
  | nil => simp [insert, keys]
  | cons field fields ih =>
    obtain ⟨k', b⟩ := field
    by_cases hk : k' = key
    · subst hk
      simp [insert, keys]
    · have hcons : keys (insert key a ((k', b) :: fields)) =
          k' :: keys (insert key a fields) := by
        simp [insert, if_neg hk, keys]
      rw [hcons, List.mem_cons, ih, show keys ((k', b) :: fields) = k' :: keys fields from rfl,
        List.mem_cons]
      exact or_left_comm

end Fields

namespace Value

/-! ## Objects with unique keys -/

mutual

/-- Whether every object in a value has each of its keys once. -/
def hasUniqueKeys : Value → Bool
  | array items => uniqueInItems items
  | object fields => decide (Fields.keys fields).Nodup && uniqueInFields fields
  | _ => true

/-- Whether every object in some items has each of its keys once. -/
def uniqueInItems : List Value → Bool
  | [] => true
  | v :: vs => hasUniqueKeys v && uniqueInItems vs

/-- Whether every object in some fields has each of its keys once. -/
def uniqueInFields : List (String × Value) → Bool
  | [] => true
  | (_, v) :: fs => hasUniqueKeys v && uniqueInFields fs

end

lemma nodup_of_hasUniqueKeys {fields : Fields} (h : (object fields).hasUniqueKeys) :
    (Fields.keys fields).Nodup := by
  rw [hasUniqueKeys, Bool.and_eq_true, decide_eq_true_eq] at h
  exact h.1

lemma hasUniqueKeys_of_partOf {v w : Value} (h : v.hasUniqueKeys) (hpart : PartOf w v) :
    w.hasUniqueKeys := by
  cases hpart with
  | @item _ items hmem =>
    rw [hasUniqueKeys] at h
    induction items with
    | nil => simp at hmem
    | cons u items ih =>
      rw [uniqueInItems, Bool.and_eq_true] at h
      rcases List.mem_cons.1 hmem with rfl | hmem
      · exact h.1
      · exact ih hmem h.2
  | @field name _ fields hmem =>
    rw [hasUniqueKeys, Bool.and_eq_true] at h
    obtain ⟨-, h⟩ := h
    induction fields with
    | nil => simp at hmem
    | cons field fields ih =>
      obtain ⟨name', u⟩ := field
      rw [uniqueInFields, Bool.and_eq_true] at h
      rcases List.mem_cons.1 hmem with heq | hmem
      · obtain ⟨rfl, rfl⟩ := Prod.mk.inj heq
        exact h.1
      · exact ih hmem h.2

lemma hasUniqueKeys_of_contains {v w : Value} (hkeys : v.hasUniqueKeys) (h : v.Contains w) :
    w.hasUniqueKeys := by
  induction h using Relation.ReflTransGen.head_induction_on with
  | refl => exact hkeys
  | head hpart _ ih => exact hasUniqueKeys_of_partOf ih hpart

lemma partOf_wellFounded : WellFounded PartOf :=
  Subrelation.wf PartOf.size_lt (measure size).wf

/-! ## Refinement -/

section

variable (reads : String → Value → Prop) (grows : Prop)

mutual

/-- A value refines another: a text may be read, the items of an array and the fields of an
object are refined in their places, and an object may get fields with new keys after them if
it grows.  Everything else stays as it is. -/
def Refines : Value → Value → Prop
  | string s, w => w = string s ∨ reads s w
  | array items, w => ∃ items', w = array items' ∧ RefinesItems items items'
  | object fields, w => ∃ fields' added, w = object (fields' ++ added) ∧
      RefinesFields fields fields' ∧ (∀ key ∈ Fields.keys added, key ∉ Fields.keys fields) ∧
      (added ≠ [] → grows)
  | v, w => w = v

/-- Items are refined one by one. -/
def RefinesItems : List Value → List Value → Prop
  | [], items' => items' = []
  | v :: items, items' => ∃ w rest, items' = w :: rest ∧ Refines v w ∧ RefinesItems items rest

/-- Fields are refined one by one, under the same keys. -/
def RefinesFields : List (String × Value) → Fields → Prop
  | [], fields' => fields' = []
  | (key, v) :: fields, fields' =>
    ∃ w rest, fields' = (key, w) :: rest ∧ Refines v w ∧ RefinesFields fields rest

end

end

variable {reads : String → Value → Prop} {grows : Prop}

/-- A field refines another: it has the same key and a refined value. -/
def RefinesField (reads : String → Value → Prop) (grows : Prop)
    (field field' : String × Value) : Prop :=
  field'.1 = field.1 ∧ Refines reads grows field.2 field'.2

lemma refinesItems_iff {items items' : List Value} :
    RefinesItems reads grows items items' ↔
      List.Forall₂ (Refines reads grows) items items' := by
  induction items generalizing items' with
  | nil => simp [RefinesItems]
  | cons v items ih =>
    rw [RefinesItems, List.forall₂_cons_left_iff]
    constructor
    · rintro ⟨w, rest, rfl, hw, hrest⟩
      exact ⟨w, rest, hw, ih.1 hrest, rfl⟩
    · rintro ⟨w, rest, hw, hrest, rfl⟩
      exact ⟨w, rest, rfl, hw, ih.2 hrest⟩

lemma refinesFields_iff {fields fields' : Fields} :
    RefinesFields reads grows fields fields' ↔
      List.Forall₂ (RefinesField reads grows) fields fields' := by
  induction fields generalizing fields' with
  | nil => simp [RefinesFields]
  | cons field fields ih =>
    obtain ⟨key, v⟩ := field
    rw [RefinesFields, List.forall₂_cons_left_iff]
    constructor
    · rintro ⟨w, rest, rfl, hw, hrest⟩
      exact ⟨(key, w), rest, ⟨rfl, hw⟩, ih.1 hrest, rfl⟩
    · rintro ⟨⟨key', w⟩, rest, ⟨rfl, hw⟩, hrest, rfl⟩
      exact ⟨w, rest, rfl, hw, ih.2 hrest⟩

lemma refines_array_iff {items : List Value} {w : Value} :
    Refines reads grows (array items) w ↔
      ∃ items', w = array items' ∧ List.Forall₂ (Refines reads grows) items items' := by
  simp only [Refines, refinesItems_iff]

lemma refines_object_iff {fields : Fields} {w : Value} :
    Refines reads grows (object fields) w ↔
      ∃ fields' added, w = object (fields' ++ added) ∧
        List.Forall₂ (RefinesField reads grows) fields fields' ∧
        (∀ key ∈ Fields.keys added, key ∉ Fields.keys fields) ∧ (added ≠ [] → grows) := by
  simp only [Refines, refinesFields_iff]

lemma refines_refl (v : Value) : Refines reads grows v v := by
  induction v using partOf_wellFounded.induction with
  | _ v ih =>
    cases v with
    | string s => exact Or.inl rfl
    | array items =>
      exact refines_array_iff.2 ⟨items, rfl,
        List.forall₂_same.2 fun w hw => ih w (.item hw)⟩
    | object fields =>
      refine refines_object_iff.2 ⟨fields, [], by simp, ?_, by simp [Fields.keys], by simp⟩
      exact List.forall₂_same.2 fun field hfield => ⟨rfl, ih field.2 (.field hfield)⟩
    | null | bool | integer | number | date | dateTime | bytes | ip => rfl

/-! ### Fields of refined objects -/

/-- A value may stand under a key of an object that refines another one. -/
structure Fits (reads : String → Value → Prop) (grows : Prop) (fields : Fields) (key : String)
    (w : Value) : Prop where
  /-- Under a key of the original the value refines what is there. -/
  refines : ∀ v, fields.lookup key = some v → Refines reads grows v w
  /-- Under a new key the object grows. -/
  grows : fields.lookup key = none → grows

section

variable {fields fields' : Fields} {key : String} {v w : Value}

lemma keys_of_forall₂ (h : List.Forall₂ (RefinesField reads grows) fields fields') :
    Fields.keys fields' = Fields.keys fields := by
  induction h with
  | nil => rfl
  | cons hfield _ ih =>
    simp only [Fields.keys, List.map_cons] at ih ⊢
    rw [hfield.1, ih]

/-- Under a key of the original stands what refines the value there. -/
lemma lookup_of_forall₂ (h : List.Forall₂ (RefinesField reads grows) fields fields')
    (hv : fields.lookup key = some v) (added : Fields) :
    ∃ w, (fields' ++ added).lookup key = some w ∧ Refines reads grows v w := by
  induction h with
  | nil => simp at hv
  | @cons field field' _ _ hfield _ ih =>
    obtain ⟨k, u⟩ := field
    obtain ⟨k', u'⟩ := field'
    obtain ⟨rfl, hu⟩ := hfield
    by_cases hk : key = k'
    · subst hk
      rw [List.lookup_cons_self, Option.some.injEq] at hv
      exact ⟨u', List.lookup_cons_self, hv ▸ hu⟩
    · rw [List.lookup_cons, beq_false_of_ne hk] at hv
      rw [List.cons_append, List.lookup_cons, beq_false_of_ne hk]
      exact ih hv

/-- A key of the original is set in its place. -/
lemma insert_of_forall₂ (h : List.Forall₂ (RefinesField reads grows) fields fields')
    (hv : fields.lookup key = some v) (hw : Refines reads grows v w) (added : Fields) :
    ∃ fields'', Fields.insert key w (fields' ++ added) = fields'' ++ added ∧
      List.Forall₂ (RefinesField reads grows) fields fields'' := by
  induction h with
  | nil => simp at hv
  | @cons field field' fields fields' hfield hfields ih =>
    obtain ⟨k, u⟩ := field
    obtain ⟨k', u'⟩ := field'
    obtain ⟨rfl, hu⟩ := hfield
    by_cases hk : k' = key
    · subst hk
      rw [List.lookup_cons_self, Option.some.injEq] at hv
      refine ⟨(k', w) :: fields', ?_, .cons ⟨rfl, hv ▸ hw⟩ hfields⟩
      rw [List.cons_append, Fields.insert, if_pos rfl, List.cons_append]
    · rw [List.lookup_cons, beq_false_of_ne (Ne.symm hk)] at hv
      obtain ⟨fields'', hinsert, hall⟩ := ih hv
      refine ⟨(k', u') :: fields'', ?_, .cons ⟨rfl, hu⟩ hall⟩
      rw [List.cons_append, Fields.insert, if_neg hk, hinsert, List.cons_append]

/-- Setting a key of a refined object to a value that fits refines the object further. -/
lemma Refines.insert (h : Refines reads grows (object fields) (object fields'))
    (hw : Fits reads grows fields key w) :
    Refines reads grows (object fields) (object (Fields.insert key w fields')) := by
  obtain ⟨kept, added, heq, hkept, hnew, hgrows⟩ := refines_object_iff.1 h
  obtain rfl := Value.object.inj heq
  cases hv : fields.lookup key with
  | some v =>
    obtain ⟨kept', hinsert, hkept'⟩ := insert_of_forall₂ hkept hv (hw.refines v hv) added
    exact refines_object_iff.2 ⟨kept', added, by rw [hinsert], hkept', hnew, hgrows⟩
  | none =>
    have hnot : key ∉ Fields.keys fields := Fields.lookup_eq_none_iff_not_mem.1 hv
    refine refines_object_iff.2 ⟨kept, Fields.insert key w added, ?_, hkept, ?_,
      fun _ => hw.grows hv⟩
    · rw [Fields.insert_append_of_not_mem (keys_of_forall₂ hkept ▸ hnot)]
    · intro k hk
      rcases Fields.mem_keys_insert.1 hk with rfl | hk
      · exact hnot
      · exact hnew k hk

/-- What stands under a key of a refined object fits there. -/
lemma Refines.fits (h : Refines reads grows (object fields) (object fields'))
    (hw : fields'.lookup key = some w) : Fits reads grows fields key w := by
  obtain ⟨kept, added, heq, hkept, -, hgrows⟩ := refines_object_iff.1 h
  obtain rfl := Value.object.inj heq
  refine ⟨fun v hv => ?_, fun hnone => hgrows ?_⟩
  · obtain ⟨w', hw', hrefines⟩ := lookup_of_forall₂ hkept hv added
    obtain rfl := Option.some.inj (hw.symm.trans hw')
    exact hrefines
  · -- No field of the original has the key, so there is an added one.
    rintro rfl
    rw [Fields.lookup_eq_none_iff_not_mem, ← keys_of_forall₂ hkept,
      ← Fields.lookup_eq_none_iff_not_mem] at hnone
    simp [hnone] at hw

/-- Every field of a refined object fits, as long as the original has each key once. -/
lemma Refines.fits_of_mem (hnodup : (Fields.keys fields).Nodup)
    (h : Refines reads grows (object fields) (object fields')) (hw : (key, w) ∈ fields') :
    Fits reads grows fields key w := by
  obtain ⟨kept, added, heq, hkept, hnew, hgrows⟩ := refines_object_iff.1 h
  obtain rfl := Value.object.inj heq
  rcases List.mem_append.1 hw with hmem | hmem
  · have hlookup := Fields.lookup_of_mem (keys_of_forall₂ hkept ▸ hnodup) hmem
    exact h.fits (by rw [List.lookup_append, hlookup, Option.some_or])
  · have hnot := hnew key (Fields.mem_keys_of_mem hmem)
    rw [← Fields.lookup_eq_none_iff_not_mem] at hnot
    exact ⟨fun v hv => by simp [hnot] at hv, fun _ => hgrows (List.ne_nil_of_mem hmem)⟩

/-- The keys of the original are kept. -/
lemma Refines.lookup (h : Refines reads grows (object fields) (object fields'))
    (hv : fields.lookup key = some v) :
    ∃ w, fields'.lookup key = some w ∧ Refines reads grows v w := by
  obtain ⟨kept, added, heq, hkept, -, -⟩ := refines_object_iff.1 h
  obtain rfl := Value.object.inj heq
  exact lookup_of_forall₂ hkept hv _

/-- Replacing an item of a refined array by a refinement of the original item refines the
array further. -/
lemma Refines.set {items items' : List Value} {i : Nat}
    (h : Refines reads grows (array items) (array items')) (hv : items[i]? = some v)
    (hw : Refines reads grows v w) :
    Refines reads grows (array items) (array (items'.set i w)) := by
  obtain ⟨_, heq, hall⟩ := refines_array_iff.1 h
  obtain rfl := Value.array.inj heq
  refine refines_array_iff.2 ⟨_, rfl, ?_⟩
  clear h heq
  induction hall generalizing i with
  | nil => simp at hv
  | cons hitem hitems ih =>
    cases i with
    | zero =>
      obtain rfl := Option.some.inj hv
      exact .cons hw hitems
    | succ i => exact .cons hitem (ih hv)

/-- Where a path leads in a value, it leads to a refinement in a refinement. -/
lemma Refines.leads {path : List PathStep} {u : Value} (h : Refines reads grows v w)
    (hpath : v.Leads path u) : ∃ u', w.Leads path u' ∧ Refines reads grows u u' := by
  induction hpath generalizing w with
  | here v => exact ⟨w, .here w, h⟩
  | @key name path v u fields hmem _ ih =>
    obtain ⟨kept, added, rfl, hkept, -, -⟩ := refines_object_iff.1 h
    obtain ⟨⟨name', v'⟩, hv', rfl, hrefines⟩ := exists_right_of_forall₂ hkept hmem
    obtain ⟨u', hu', hrefines'⟩ := ih hrefines
    exact ⟨u', .key (List.mem_append_left _ hv') hu', hrefines'⟩
  | @index i path v u items hi _ ih =>
    obtain ⟨items', rfl, hall⟩ := refines_array_iff.1 h
    obtain ⟨v', hv', hrefines⟩ : ∃ v', items'[i]? = some v' ∧ Refines reads grows v v' := by
      obtain ⟨hi', rfl⟩ := List.getElem?_eq_some_iff.1 hi
      have hlt : i < items'.length := hall.length_eq ▸ hi'
      exact ⟨items'[i], List.getElem?_eq_getElem hlt, hall.get hi' hlt⟩
    obtain ⟨u', hu', hrefines'⟩ := ih hrefines
    exact ⟨u', .index hv' hu', hrefines'⟩

end

end Value

end ApiContract
