/-
# What is sent for a value

A value with typed leaves is sent with texts in their places.  If it has come from a value in the
shapes of JSON, then nothing but texts may have changed on the way: what is sent has the same size,
it looks the same from outside, and it is as good a document.
-/
import ApiContract.Proofs.Schema.Asks
import ApiContract.Proofs.Value.LeftmostUnion
import ApiContract.Proofs.Value.ReadBack

namespace ApiContract

lemma map_eq_map_of_forall₂ {α β γ : Type} {l : List α} {l' : List β} {f : α → γ} {g : β → γ}
    (h : List.Forall₂ (fun a b => g b = f a) l l') : l'.map g = l.map f := by
  induction h with
  | nil => rfl
  | cons heq _ ih => rw [List.map_cons, List.map_cons, heq, ih]

namespace Value

variable {v v' w : Value} {fields : Fields} {items : List Value}

/-! ## The shapes of JSON -/

lemma plain_of_partOf (h : v.plain = v) (hpart : PartOf w v) : w.plain = w := by
  cases hpart with
  | @item _ items hmem =>
    rw [plain, plainItems_eq_map, array.injEq] at h
    exact List.map_inj_left.1 (h.trans (List.map_id items).symm) w hmem
  | @field name _ fields hmem =>
    rw [plain, plainFields_eq_map, object.injEq] at h
    have hfield := List.map_inj_left.1 (h.trans (List.map_id fields).symm) (name, w) hmem
    exact (Prod.mk.inj hfield).2

lemma lookup_plainFields (fields : Fields) (name : String) :
    (plainFields fields).lookup name = (fields.lookup name).map plain := by
  induction fields with
  | nil => rfl
  | cons field fields ih =>
    obtain ⟨key, v⟩ := field
    rw [plainFields, List.lookup_cons, List.lookup_cons, ih]
    split <;> rfl

lemma keys_plainFields (fields : Fields) :
    Fields.keys (plainFields fields) = Fields.keys fields := by
  rw [plainFields_eq_map, Fields.keys, List.map_map]
  rfl

/-- No key occurs twice in an object in a document. -/
lemma IsDocument.hasUniqueKeys (h : v.IsDocument) : v.hasUniqueKeys := by
  induction h with
  | null | bool | integer | string => rfl
  | array _ ih =>
    refine hasUniqueKeys_of_child? List.nodup_nil fun step u hu => ?_
    cases partOf_of_child? hu with
    | item hmem => exact ih u hmem
  | object hnodup _ ih =>
    refine hasUniqueKeys_of_child? hnodup fun step u hu => ?_
    cases partOf_of_child? hu with
    | field hmem => exact ih _ hmem

/-! ## Looks from outside -/

/-- From outside a value looks like another: it has the same types, as many items and the same
keys, and it is the same number. -/
structure LooksLike (v v' : Value) : Prop where
  /-- It has the same types. -/
  hasType : ∀ type, Constraint.hasType v' type = Constraint.hasType v type
  /-- It has as many items. -/
  items : v'.array?.map List.length = v.array?.map List.length
  /-- It has the same keys. -/
  keys : v'.object?.map Fields.keys = v.object?.map Fields.keys
  /-- It is the same number. -/
  number : v.isNumber → v' = v

lemma LooksLike.refl (v : Value) : v.LooksLike v :=
  ⟨fun _ => rfl, rfl, rfl, fun _ => rfl⟩

lemma LooksLike.isNumber_eq (h : v.LooksLike v') : v'.isNumber = v.isNumber :=
  Except.ok.inj (h.hasType "number")

lemma LooksLike.exists_object (h : (object fields).LooksLike v') :
    ∃ fields', v' = object fields' ∧ Fields.keys fields' = Fields.keys fields := by
  obtain ⟨fields', hfields', hkeys⟩ := Option.map_eq_some_iff.1 h.keys
  exact ⟨fields', object?_eq_some_iff.1 hfields', hkeys⟩

lemma LooksLike.ne_object (h : v.LooksLike v') (hv : ∀ fields, v ≠ object fields)
    (fields : Fields) : v' ≠ object fields := by
  rintro rfl
  obtain ⟨fields', hfields', -⟩ := Option.map_eq_some_iff.1 h.keys.symm
  exact hv fields' (object?_eq_some_iff.1 hfields')

lemma LooksLike.exists_array (h : (array items).LooksLike v') : ∃ items', v' = array items' := by
  obtain ⟨items', hitems', -⟩ := Option.map_eq_some_iff.1 h.items
  exact ⟨items', array?_eq_some_iff.1 hitems'⟩

lemma LooksLike.ne_array (h : v.LooksLike v') (hv : ∀ items, v ≠ array items)
    (items : List Value) : v' ≠ array items := by
  rintro rfl
  obtain ⟨items', hitems', -⟩ := Option.map_eq_some_iff.1 h.items.symm
  exact hv items' (array?_eq_some_iff.1 hitems')

lemma LooksLike.isContainer (h : v.LooksLike v') (hv : v.isContainer) : v'.isContainer := by
  cases v with
  | array =>
    obtain ⟨items', rfl⟩ := h.exists_array
    rfl
  | object =>
    obtain ⟨fields', rfl, -⟩ := h.exists_object
    rfl
  | _ => cases hv

lemma looksLike_string (s t : String) : (string s).LooksLike (string t) where
  hasType type := by
    unfold Constraint.hasType
    split <;> rfl
  items := rfl
  keys := rfl
  number h := by cases h

lemma looksLike_array {items items' : List Value} (h : items'.length = items.length) :
    (array items).LooksLike (array items') where
  hasType type := by
    unfold Constraint.hasType
    split <;> rfl
  items := congrArg some h
  keys := rfl
  number h := by cases h

lemma looksLike_object {fields fields' : Fields} (h : Fields.keys fields' = Fields.keys fields) :
    (object fields).LooksLike (object fields') where
  hasType type := by
    unfold Constraint.hasType
    split <;> rfl
  items := rfl
  keys := congrArg some h
  number h := by cases h

/-! ## Other texts -/

/-- A value with other texts in it. -/
def Respelled (v v' : Value) : Prop :=
  v.Refines (fun _ w => ∃ t, w = string t) False v'

lemma respelled_object_iff : (object fields).Respelled v' ↔ ∃ fields', v' = object fields' ∧
    List.Forall₂ (fun field field' => field'.1 = field.1 ∧ field.2.Respelled field'.2)
      fields fields' := by
  rw [Respelled, refines_object_iff]
  constructor
  · rintro ⟨kept, added, rfl, hkept, -, hadded⟩
    obtain rfl : added = [] := by
      by_contra hne
      exact hadded hne
    exact ⟨kept, by rw [List.append_nil], hkept⟩
  · rintro ⟨fields', rfl, hfields⟩
    exact ⟨fields', [], by rw [List.append_nil], hfields, by simp [Fields.keys], by simp⟩

/-- What is sent for a value is written as the value is. -/
lemma serialized_plain (v : Value) : v.plain.serialized = v.serialized := by
  rw [serialized, serialized, written_plain]

lemma same_self_of_isTyped (h : w.isTyped) : w == w := by
  cases w with
  | date | dateTime | bytes | ip => exact same_self_of_leaf rfl (by simp)
  | _ => cases h

lemma exists_plain_of_isTyped (h : w.isTyped) : ∃ t, w.plain = string t := by
  cases w with
  | date | dateTime | bytes | ip => exact ⟨_, rfl⟩
  | _ => cases h

/-- What is sent for a refined value differs from the value in texts only, if nothing has been
added. -/
lemma Refines.respelled {reads : String → Value → Prop} {grows : Prop} (hreads : ReadsLeaves reads)
    (hgrows : ¬ grows) (hplain : v.plain = v) (h : v.Refines reads grows w) :
    v.Respelled w.plain := by
  induction v using partOf_wellFounded.induction generalizing w with
  | _ v ih =>
    have hpart : ∀ {u u'}, PartOf u v → u.Refines reads grows u' → u.Respelled u'.plain :=
      fun hu hrefines => ih _ hu (plain_of_partOf hplain hu) hrefines
    cases v with
    | string s =>
      rcases h with rfl | hread
      · exact Or.inl rfl
      · exact Or.inr (exists_plain_of_isTyped (hreads s w hread))
    | array items =>
      obtain ⟨items', rfl, hitems⟩ := refines_array_iff.1 h
      rw [plain, plainItems_eq_map]
      exact refines_array_iff.2 ⟨_, rfl, List.forall₂_map_right_iff.2
        (forall₂_imp_mem hitems fun u hu _ _ hrefines => hpart (.item hu) hrefines)⟩
    | object fields =>
      obtain ⟨kept, added, rfl, hkept, -, hadded⟩ := refines_object_iff.1 h
      obtain rfl : added = [] := by
        by_contra hne
        exact hgrows (hadded hne)
      rw [plain, List.append_nil, plainFields_eq_map]
      exact respelled_object_iff.2 ⟨_, rfl, List.forall₂_map_right_iff.2
        (forall₂_imp_mem hkept fun field hfield _ _ ⟨hkey, hrefines⟩ =>
          ⟨hkey, hpart (.field hfield) hrefines⟩)⟩
    | null | bool | integer | number | date | dateTime | bytes | ip =>
      obtain rfl := h
      rw [hplain]
      exact refines_refl _

lemma Respelled.looksLike (h : v.Respelled v') : v.LooksLike v' := by
  cases v with
  | string s =>
    rcases h with rfl | ⟨t, rfl⟩
    · exact .refl _
    · exact looksLike_string s t
  | array items =>
    obtain ⟨items', rfl, hitems⟩ := refines_array_iff.1 h
    exact looksLike_array hitems.length_eq.symm
  | object fields =>
    obtain ⟨fields', rfl, hfields⟩ := respelled_object_iff.1 h
    exact looksLike_object (keys_of_forall₂ hfields)
  | null | bool | integer | number | date | dateTime | bytes | ip =>
    obtain rfl := h
    exact .refl _

lemma Respelled.size_eq (h : v.Respelled v') : v'.size = v.size := by
  induction v using partOf_wellFounded.induction generalizing v' with
  | _ v ih =>
    cases v with
    | string s => rcases h with rfl | ⟨t, rfl⟩ <;> rfl
    | array items =>
      obtain ⟨items', rfl, hitems⟩ := refines_array_iff.1 h
      rw [size, size, sizeItems_eq_foldr, sizeItems_eq_foldr, map_eq_map_of_forall₂
        (forall₂_imp_mem hitems fun u hu _ _ => ih u (.item hu))]
    | object fields =>
      obtain ⟨fields', rfl, hfields⟩ := respelled_object_iff.1 h
      rw [size, size, sizeFields_eq_foldr, sizeFields_eq_foldr, map_eq_map_of_forall₂
        (forall₂_imp_mem hfields fun field hfield _ _ hr => ih field.2 (.field hfield) hr.2)]
    | null | bool | integer | number | date | dateTime | bytes | ip =>
      obtain rfl := h
      rfl

lemma nestingOfItems_eq_foldr (items : List Value) :
    nestingOfItems items = (items.map nesting).foldr max 0 := by
  induction items with
  | nil => rfl
  | cons v items ih => rw [nestingOfItems, ih, List.map_cons, List.foldr_cons]

lemma nestingOfFields_eq_foldr (fields : Fields) :
    nestingOfFields fields = (fields.map fun field => field.2.nesting).foldr max 0 := by
  induction fields with
  | nil => rfl
  | cons field fields ih => rw [nestingOfFields, ih, List.map_cons, List.foldr_cons]

lemma Respelled.nesting_eq (h : v.Respelled v') : v'.nesting = v.nesting := by
  induction v using partOf_wellFounded.induction generalizing v' with
  | _ v ih =>
    cases v with
    | string s => rcases h with rfl | ⟨t, rfl⟩ <;> rfl
    | array items =>
      obtain ⟨items', rfl, hitems⟩ := refines_array_iff.1 h
      rw [nesting, nesting, nestingOfItems_eq_foldr, nestingOfItems_eq_foldr,
        map_eq_map_of_forall₂ (forall₂_imp_mem hitems fun u hu _ _ => ih u (.item hu))]
    | object fields =>
      obtain ⟨fields', rfl, hfields⟩ := respelled_object_iff.1 h
      rw [nesting, nesting, nestingOfFields_eq_foldr, nestingOfFields_eq_foldr,
        map_eq_map_of_forall₂
          (forall₂_imp_mem hfields fun field hfield _ _ hr => ih field.2 (.field hfield) hr.2)]
    | null | bool | integer | number | date | dateTime | bytes | ip =>
      obtain rfl := h
      rfl

/-- With other texts in it a document is a document. -/
lemma IsDocument.respelled (hv : v.IsDocument) (h : v.Respelled v') : v'.IsDocument := by
  induction hv generalizing v' with
  | null | bool | integer =>
    obtain rfl := h
    constructor
  | string s => rcases h with rfl | ⟨t, rfl⟩ <;> exact .string _
  | array _ ih =>
    obtain ⟨items', rfl, hitems⟩ := refines_array_iff.1 h
    refine .array fun u' hu' => ?_
    obtain ⟨u, hu, hr⟩ := exists_left_of_forall₂ hitems hu'
    exact ih u hu hr
  | object hnodup _ ih =>
    obtain ⟨fields', rfl, hfields⟩ := respelled_object_iff.1 h
    refine .object (keys_of_forall₂ hfields ▸ hnodup) fun field' hfield' => ?_
    obtain ⟨field, hfield, -, hr⟩ := exists_left_of_forall₂ hfields hfield'
    exact ih field hfield hr

/-! ## Paths -/

/-- Where a path leads in a value, it leads in what is sent to what is sent there. -/
lemma Leads.plain {path : List PathStep} (h : v.Leads path w) : v.plain.Leads path w.plain := by
  induction h with
  | here v => exact .here _
  | @key name path u w fields hmem _ ih =>
    rw [Value.plain, plainFields_eq_map]
    exact .key (List.mem_map_of_mem (f := fun field => (field.1, Value.plain field.2)) hmem) ih
  | @index i path u w items hi _ ih =>
    rw [Value.plain, plainItems_eq_map]
    exact .index (by rw [List.getElem?_map, hi, Option.map_some]) ih

end Value

end ApiContract
