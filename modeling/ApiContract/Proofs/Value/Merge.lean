/-
# Merging refined values

Two refinements of one value are merged, or laid over each other, to a refinement of it again.
If nothing may be added, then refinements have the same shape, so that there is nothing in the
second that the first does not have: merging leaves the first as it is.

Both operations go through the parts of the value.  At the parts of one value the refinements
refine the part, which gives the induction.
-/
import ApiContract.Proofs.Value.Refinement

namespace ApiContract.Value

variable {reads : String → Value → Prop} {grows : Prop} {v w earlier later : Value}
  {items : List Value} {fields changes : Fields}

/-! ## Leaves -/

/-- Nothing is merged into a value without parts. -/
lemma merge_of_not_container (h : ¬ v.isContainer) (w : Value) : merge v w = v := by
  cases v with
  | array | object => exact absurd rfl h
  | null | bool | integer | number | string | date | dateTime | bytes | ip =>
    cases w <;> rfl

/-- Over a value without parts one of the changed values is laid as a whole. -/
lemma overlay_of_not_container (h : ¬ v.isContainer) (earlier later : Value) :
    overlay v earlier later = earlier ∨ overlay v earlier later = later := by
  unfold overlay overlayBy
  split
  · exact Or.inl rfl
  split
  · exact Or.inr rfl
  · right
    cases later <;> cases v <;> first | rfl | exact absurd rfl h

/-- What a text may be read as has no parts. -/
def ReadsLeaves (reads : String → Value → Prop) : Prop :=
  ∀ s w, reads s w → w.isTyped

lemma not_isContainer_of_isTyped (h : w.isTyped) : ¬ w.isContainer := by
  cases w <;> simp_all [isTyped, isContainer]

/-- A refinement of a value without parts has no parts. -/
lemma Refines.not_isContainer (hreads : ReadsLeaves reads) (h : Refines reads grows v w)
    (hv : ¬ v.isContainer) : ¬ w.isContainer := by
  cases v with
  | array | object => exact absurd rfl hv
  | string s =>
    rcases h with rfl | h
    · exact hv
    · exact not_isContainer_of_isTyped (hreads s w h)
  | null | bool | integer | number | date | dateTime | bytes | ip =>
    obtain rfl : w = _ := h
    exact hv

/-! ## Merging -/

/-- Refinements of a value are merged to a refinement of it. -/
def Merges (reads : String → Value → Prop) (grows : Prop) (v : Value) : Prop :=
  ∀ b c, Refines reads grows v b → Refines reads grows v c → Refines reads grows v (merge b c)

lemma mergeItems_refines (hmerges : ∀ v ∈ items, Merges reads grows v) {bs cs : List Value}
    (hb : List.Forall₂ (Refines reads grows) items bs)
    (hc : List.Forall₂ (Refines reads grows) items cs) :
    List.Forall₂ (Refines reads grows) items (mergeItems bs cs) := by
  induction hb generalizing cs with
  | nil =>
    cases hc
    exact .nil
  | cons hitem _ ih =>
    cases hc with
    | cons hitem' hitems' =>
      exact .cons (hmerges _ (by simp) _ _ hitem hitem')
        (ih (fun v hv => hmerges v (by simp [hv])) hitems')

/-- Fields that fit are merged into a refined object one after the other. -/
lemma mergeFields_refines
    (hmerges : ∀ key v, fields.lookup key = some v → Merges reads grows v) {bs : Fields}
    (hb : Refines reads grows (object fields) (object bs))
    (hc : ∀ key w, (key, w) ∈ changes → Fits reads grows fields key w) :
    Refines reads grows (object fields) (object (mergeFields bs changes)) := by
  induction changes generalizing bs with
  | nil => exact hb
  | cons change changes ih =>
    obtain ⟨key, w⟩ := change
    have hw := hc key w (by simp)
    have hrest : ∀ key w, (key, w) ∈ changes → Fits reads grows fields key w :=
      fun key w hmem => hc key w (by simp [hmem])
    rw [mergeFields]
    split
    · rename_i b hlookup
      have hmerged : Fits reads grows fields key (merge b w) :=
        ⟨fun v hv => hmerges key v hv b w ((hb.fits hlookup).refines v hv) (hw.refines v hv),
          hw.grows⟩
      exact ih (hb.insert hmerged) hrest
    · exact ih (hb.insert hw) hrest

/-- **Merging refinements refines**: two refinements of a value in which keys are unique are
merged to a refinement of it. -/
theorem merges_of_hasUniqueKeys (hreads : ReadsLeaves reads) (hkeys : v.hasUniqueKeys) :
    Merges reads grows v := by
  induction v using partOf_wellFounded.induction with
  | _ v ih =>
    have hparts : ∀ u, PartOf u v → Merges reads grows u :=
      fun u hu => ih u hu (hasUniqueKeys_of_partOf hkeys hu)
    intro b c hb hc
    by_cases hv : v.isContainer
    · cases v with
      | array items =>
        obtain ⟨bs, rfl, hbs⟩ := refines_array_iff.1 hb
        obtain ⟨cs, rfl, hcs⟩ := refines_array_iff.1 hc
        rw [merge]
        exact refines_array_iff.2
          ⟨_, rfl, mergeItems_refines (fun u hu => hparts u (.item hu)) hbs hcs⟩
      | object fields =>
        obtain ⟨_, _, rfl, -⟩ := refines_object_iff.1 hb
        obtain ⟨_, _, rfl, -⟩ := refines_object_iff.1 hc
        rw [merge]
        exact mergeFields_refines (fun _ u hu => hparts u (partOf_of_lookup hu)) hb
          fun _ _ hmem => hc.fits_of_mem (nodup_of_hasUniqueKeys hkeys) hmem
      | _ => simp [isContainer] at hv
    · rw [merge_of_not_container (hb.not_isContainer hreads hv)]
      exact hb

lemma mergeAll_refines (hreads : ReadsLeaves reads) (hkeys : v.hasUniqueKeys)
    {ws : List Value} (h : ∀ w ∈ ws, Refines reads grows v w) (hw : mergeAll ws = some w) :
    Refines reads grows v w := by
  cases ws with
  | nil => simp [mergeAll] at hw
  | cons b ws =>
    obtain rfl := Option.some.inj hw
    have hb := h b (by simp)
    have hws : ∀ w ∈ ws, Refines reads grows v w := fun w hw => h w (by simp [hw])
    clear h hw
    induction ws generalizing b with
    | nil => exact hb
    | cons c ws ih =>
      exact ih _ (merges_of_hasUniqueKeys hreads hkeys b c hb (hws c (by simp)))
        fun w hw => hws w (by simp [hw])

/-! ## Laying over each other -/

/-- Refinements of a value are laid over each other to a refinement of it. -/
def Overlays (reads : String → Value → Prop) (grows : Prop) (v : Value) : Prop :=
  ∀ b c, Refines reads grows v b → Refines reads grows v c → Refines reads grows v (overlay v b c)

lemma overlayItemsBy_refines (hoverlays : ∀ v ∈ items, Overlays reads grows v) {bs cs : List Value}
    (hb : List.Forall₂ (Refines reads grows) items bs)
    (hc : List.Forall₂ (Refines reads grows) items cs) :
    List.Forall₂ (Refines reads grows) items (overlayItemsBy (· == ·) items bs cs) := by
  induction hb generalizing cs with
  | nil =>
    cases hc
    rw [overlayItemsBy]
    exact .nil
  | cons hitem _ ih =>
    cases hc with
    | cons hitem' hitems' =>
      rw [overlayItemsBy]
      exact .cons (hoverlays _ (by simp) _ _ hitem hitem')
        (ih (fun v hv => hoverlays v (by simp [hv])) hitems')

lemma overlayFieldsBy_refines
    (hoverlays : ∀ key v, fields.lookup key = some v → Overlays reads grows v) {bs : Fields}
    (hb : Refines reads grows (object fields) (object bs))
    (hc : ∀ key w, (key, w) ∈ changes → Fits reads grows fields key w) :
    Refines reads grows (object fields) (object (overlayFieldsBy (· == ·) fields bs changes)) := by
  induction changes generalizing bs with
  | nil =>
    rw [overlayFieldsBy]
    exact hb
  | cons change changes ih =>
    obtain ⟨key, w⟩ := change
    have hw := hc key w (by simp)
    have hrest : ∀ key w, (key, w) ∈ changes → Fits reads grows fields key w :=
      fun key w hmem => hc key w (by simp [hmem])
    rw [overlayFieldsBy]
    split
    · rename_i b hlookup
      split
      · rename_i o ho
        have hlaid : Fits reads grows fields key (overlay o b w) := by
          refine ⟨fun v hv => ?_, hw.grows⟩
          obtain rfl := Option.some.inj (ho.symm.trans hv)
          exact hoverlays key o ho b w ((hb.fits hlookup).refines o ho) (hw.refines o ho)
        exact ih (hb.insert hlaid) hrest
      · -- Both have added the key.
        rename_i hnone
        exact ih (hb.insert ⟨fun v hv => by simp [hnone] at hv, hw.grows⟩) hrest
    · exact ih (hb.insert hw) hrest

/-- **Laying refinements over each other refines**: two refinements of a value in which keys
are unique are laid over each other to a refinement of it. -/
theorem overlays_of_hasUniqueKeys (hkeys : v.hasUniqueKeys) : Overlays reads grows v := by
  induction v using partOf_wellFounded.induction with
  | _ v ih =>
    have hparts : ∀ u, PartOf u v → Overlays reads grows u :=
      fun u hu => ih u hu (hasUniqueKeys_of_partOf hkeys hu)
    intro b c hb hc
    by_cases hv : v.isContainer
    · cases v with
      | array items =>
        obtain ⟨bs, rfl, hbs⟩ := refines_array_iff.1 hb
        obtain ⟨cs, rfl, hcs⟩ := refines_array_iff.1 hc
        rw [overlay, overlayBy]
        split
        · exact hb
        split
        · exact hc
        · exact refines_array_iff.2
            ⟨_, rfl, overlayItemsBy_refines (fun u hu => hparts u (.item hu)) hbs hcs⟩
      | object fields =>
        obtain ⟨_, _, rfl, -⟩ := refines_object_iff.1 hb
        obtain ⟨_, _, rfl, -⟩ := refines_object_iff.1 hc
        rw [overlay, overlayBy]
        split
        · exact hb
        split
        · exact hc
        · exact overlayFieldsBy_refines (fun _ u hu => hparts u (partOf_of_lookup hu)) hb
            fun _ _ hmem => hc.fits_of_mem (nodup_of_hasUniqueKeys hkeys) hmem
      | _ => simp [isContainer] at hv
    · rcases overlay_of_not_container hv b c with heq | heq <;> rw [heq]
      · exact hb
      · exact hc

/-! ## Merging without additions -/

/-- Of two refinements of a value merging leaves the first as it is. -/
def MergesLeft (reads : String → Value → Prop) (v : Value) : Prop :=
  ∀ b c, Refines reads False v b → Refines reads False v c → merge b c = b

lemma mergeItems_eq_left (hleft : ∀ v ∈ items, MergesLeft reads v) {bs cs : List Value}
    (hb : List.Forall₂ (Refines reads False) items bs)
    (hc : List.Forall₂ (Refines reads False) items cs) : mergeItems bs cs = bs := by
  induction hb generalizing cs with
  | nil =>
    cases hc
    rfl
  | cons hitem _ ih =>
    cases hc with
    | cons hitem' hitems' =>
      rw [mergeItems, hleft _ (by simp) _ _ hitem hitem',
        ih (fun v hv => hleft v (by simp [hv])) hitems']

lemma mergeFields_eq_left
    (hleft : ∀ key v, fields.lookup key = some v → MergesLeft reads v) {bs : Fields}
    (hb : Refines reads False (object fields) (object bs))
    (hc : ∀ key w, (key, w) ∈ changes → Fits reads False fields key w) :
    mergeFields bs changes = bs := by
  induction changes with
  | nil => rfl
  | cons change changes ih =>
    obtain ⟨key, w⟩ := change
    have hw := hc key w (by simp)
    -- The key is one of the original, so it is set to what it has already.
    obtain ⟨v, hv⟩ := Option.ne_none_iff_exists'.1 hw.grows
    obtain ⟨b, hlookup, hrefines⟩ := hb.lookup hv
    rw [mergeFields, hlookup]
    dsimp only
    rw [hleft key v hv b w hrefines (hw.refines v hv), Fields.insert_of_lookup hlookup]
    exact ih fun key w hmem => hc key w (by simp [hmem])

/-- **Without additions the first refinement wins**: what is merged into a refinement of a value
in which keys are unique makes no difference if it refines the same value. -/
theorem mergesLeft_of_hasUniqueKeys (hreads : ReadsLeaves reads) (hkeys : v.hasUniqueKeys) :
    MergesLeft reads v := by
  induction v using partOf_wellFounded.induction with
  | _ v ih =>
    have hparts : ∀ u, PartOf u v → MergesLeft reads u :=
      fun u hu => ih u hu (hasUniqueKeys_of_partOf hkeys hu)
    intro b c hb hc
    by_cases hv : v.isContainer
    · cases v with
      | array items =>
        obtain ⟨bs, rfl, hbs⟩ := refines_array_iff.1 hb
        obtain ⟨cs, rfl, hcs⟩ := refines_array_iff.1 hc
        rw [merge, mergeItems_eq_left (fun u hu => hparts u (.item hu)) hbs hcs]
      | object fields =>
        obtain ⟨_, _, rfl, -⟩ := refines_object_iff.1 hb
        obtain ⟨_, _, rfl, -⟩ := refines_object_iff.1 hc
        rw [merge, mergeFields_eq_left (fun _ u hu => hparts u (partOf_of_lookup hu)) hb
          fun _ _ hmem => hc.fits_of_mem (nodup_of_hasUniqueKeys hkeys) hmem]
      | _ => simp [isContainer] at hv
    · exact merge_of_not_container (hb.not_isContainer hreads hv) c

lemma mergeAll_eq_head (hreads : ReadsLeaves reads) (hkeys : v.hasUniqueKeys) {b : Value}
    {ws : List Value} (hb : Refines reads False v b)
    (h : ∀ w ∈ ws, Refines reads False v w) : mergeAll (b :: ws) = some b := by
  rw [mergeAll]
  induction ws with
  | nil => rfl
  | cons c ws ih =>
    rw [List.foldl_cons, mergesLeft_of_hasUniqueKeys hreads hkeys b c hb (h c (by simp))]
    exact ih fun w hw => h w (by simp [hw])

end ApiContract.Value
