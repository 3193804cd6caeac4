/-
# What stands at a path of values laid over each other

Two changed copies of a value are compared with it as wholes first: where one of them equals it,
the other one is taken, with everything in it.  Otherwise they are brought together part by part.
Equal values have equal values at their paths, so a path does not show whether it was reached part
by part or was in something that was taken as a whole.

What is at a path depends on whether the original has it.  A leaf there is taken from the copy that
has changed it, and from the later one if both have.  At a path that the original does not have, the
copies are merged.
-/
import ApiContract.Proofs.Value.PathMerge

namespace ApiContract.Value

variable {source earlier later u v w : Value} {step : PathStep} {path : List PathStep}

/-! ## One step into values laid over each other -/

/-- How two values are brought together at a place of which it is known what was there. -/
def overlayAt : Option Value → Value → Value → Value
  | some source => overlay source
  | none => merge

lemma overlayFieldsBy_eq_combine (base fields changes : Fields) :
    overlayFieldsBy (· == ·) base fields changes =
      Fields.combine (fun key => overlayAt (base.lookup key)) fields changes := by
  induction changes generalizing fields with
  | nil => rw [overlayFieldsBy, Fields.combine]
  | cons change changes ih =>
    obtain ⟨key, w⟩ := change
    rw [overlayFieldsBy, Fields.combine]
    cases fields.lookup key with
    | none => exact ih _
    | some v => cases base.lookup key <;> exact ih _

lemma getElem?_overlayItemsBy (base items changes : List Value) (i : Nat) :
    (overlayItemsBy (· == ·) base items changes)[i]? =
      Option.merge (overlayAt base[i]?) items[i]? changes[i]? := by
  induction changes generalizing base items i with
  | nil => simp [overlayItemsBy]
  | cons w changes ih =>
    cases items with
    | nil =>
      rw [overlayItemsBy]
      cases i with
      | zero => rfl
      | succ i => simpa using ih base.tail [] i
    | cons v items =>
      cases base with
      | nil =>
        rw [overlayItemsBy]
        cases i with
        | zero => rfl
        | succ i => simpa using ih [] items i
      | cons o base =>
        rw [overlayItemsBy]
        cases i with
        | zero => rfl
        | succ i => simpa using ih base items i

lemma overlay_of_later_same (hsame : later == source) :
    overlay source earlier later = earlier := by
  unfold overlay overlayBy
  exact if_pos hsame

lemma overlay_of_earlier_same (hlater : ¬ later == source) (hsame : earlier == source) :
    overlay source earlier later = later := by
  unfold overlay overlayBy
  rw [if_neg hlater, if_pos hsame]

/-- A leaf that is another one now is taken. -/
lemma overlay_of_leaf (hleaf : later.shape = .leaf) (hlater : ¬ later == source)
    (hearlier : ¬ earlier == source) : overlay source earlier later = later := by
  unfold overlay overlayBy
  rw [if_neg hlater, if_neg hearlier]
  cases later <;> first | rfl | simp [shape] at hleaf

/-- A step into changed copies, neither of which equals the original, leads to what the two have
there, brought together. -/
lemma child?_overlay (hkeys : later.hasUniqueKeys) (hshape : earlier.shape = source.shape)
    (hshape' : later.shape = source.shape) (hlater : ¬ later == source)
    (hearlier : ¬ earlier == source) (step : PathStep) :
    (overlay source earlier later).child? step =
      Option.merge (overlayAt (source.child? step)) (earlier.child? step) (later.child? step) := by
  cases later with
  | array changes =>
    cases source <;> simp only [shape, reduceCtorEq] at hshape'
    cases earlier <;> simp only [shape, reduceCtorEq] at hshape
    rw [overlay, overlayBy, if_neg hlater, if_neg hearlier]
    cases step with
    | key => rfl
    | index i => exact getElem?_overlayItemsBy _ _ _ i
  | object changes =>
    cases source <;> simp only [shape, reduceCtorEq] at hshape'
    cases earlier <;> simp only [shape, reduceCtorEq] at hshape
    rw [overlay, overlayBy, if_neg hlater, if_neg hearlier, overlayFieldsBy_eq_combine]
    cases step with
    | index => rfl
    | key name => exact Fields.lookup_combine (nodup_of_hasUniqueKeys hkeys) _ _ name
  | null | bool | integer | number | string | date | dateTime | bytes | ip =>
    rw [overlay_of_leaf rfl hlater hearlier, child?_of_leaf (hshape.trans hshape'.symm),
      child?_of_leaf rfl]
    rfl

/-! ## Paths into values laid over each other -/

/-- On the way along a path that an equal value does not change there is nothing to disagree
about. -/
lemma agreeBefore_of_same (hsame : earlier == source) (hlater : source.Extends later)
    (path : List PathStep) : AgreeBefore earlier later path := by
  rintro before - - - a b ha hb
  obtain ⟨u, hu, hau⟩ := at?_of_same hsame ha
  rw [shape_eq_of_same hau, hlater.shape_eq_of_at? hu hb]

/-- What equals the original has no path that the original has not. -/
lemma at?_eq_none_of_same (hsame : v == source) (hnone : source.at? path = none) :
    v.at? path = none := by
  cases hv : v.at? path with
  | none => rfl
  | some a =>
    obtain ⟨u, hu, -⟩ := at?_of_same hsame hv
    simp [hnone] at hu

/-- **Additions are merged**: at a path that the original does not have, two copies laid over each
other are the same as merged. -/
theorem at?_overlay_of_at?_eq_none (hkeys : later.hasUniqueKeys)
    (hearlier : source.Extends earlier) (hlater : source.Extends later)
    (hnone : source.at? path = none) :
    (overlay source earlier later).at? path = (merge earlier later).at? path := by
  induction path generalizing source earlier later with
  | nil => simp [at?] at hnone
  | cons step path ih =>
    by_cases hlast : later == source
    · -- The later copy adds nothing.
      rw [overlay_of_later_same hlast,
        at?_merge_of_right_eq_none hkeys (at?_eq_none_of_same hlast hnone)]
    by_cases hfirst : earlier == source
    · -- The earlier copy adds nothing, so nothing of the later one is lost.
      rw [overlay_of_earlier_same hlast hfirst,
        at?_merge hkeys (agreeBefore_of_same hfirst hlater _), at?_eq_none_of_same hfirst hnone,
        Option.merge_none_left]
    have hchild := child?_overlay hkeys hearlier.shape_eq hlater.shape_eq hlast hfirst step
    have hmerge := child?_merge hkeys (hearlier.shape_eq.trans hlater.shape_eq.symm) step
    cases hu : source.child? step with
    | none =>
      -- The original ends before this step, so both parts are additions.
      rw [hu] at hchild
      simp only [at?]
      rw [hchild, hmerge]
      rfl
    | some u =>
      -- All three have the part, and the rest of the path is looked for in it.
      obtain ⟨v, hv, hearlier⟩ := hearlier.child hu
      obtain ⟨w, hw, hlater⟩ := hlater.child hu
      rw [hu, hv, hw] at hchild
      rw [hv, hw] at hmerge
      rw [at?_cons_of_child? hchild, at?_cons_of_child? hmerge]
      rw [at?_cons_of_child? hu] at hnone
      exact ih (hasUniqueKeys_of_partOf hkeys (partOf_of_child? hw)) hearlier hlater hnone

/-- Where one of the copies equals the original, a leaf of it is taken from the other copy. -/
lemma at?_overlay_of_same (hsource : source.IsExact) (hexact : earlier.IsExact)
    (hexact' : later.IsExact) (hearlier : source.Extends earlier) (hlater : source.Extends later)
    (hsame : later == source ∨ earlier == source) (hu : source.at? path = some u)
    (hv : earlier.at? path = some v) (hw : later.at? path = some w) :
    ∃ x, (overlay source earlier later).at? path = some x ∧
      (u.shape = .leaf → (w == u → x == v) ∧ (¬ w == u → x == w)) := by
  by_cases hlast : later == source
  · obtain ⟨u', hu', hwu⟩ := at?_of_same hlast hw
    obtain rfl := Option.some.inj (hu.symm.trans hu')
    refine ⟨v, by rw [overlay_of_later_same hlast, hv], fun hleaf => ⟨fun _ => ?_, absurd hwu⟩⟩
    exact same_self_of_leaf ((hearlier.shape_eq_of_at? hu hv).trans hleaf) (hexact.ne_number hv)
  · have hfirst := hsame.resolve_left hlast
    obtain ⟨u', hu', hvu⟩ := at?_of_same hfirst hv
    obtain rfl := Option.some.inj (hu.symm.trans hu')
    refine ⟨w, by rw [overlay_of_earlier_same hlast hfirst, hw], fun hleaf => ?_⟩
    constructor
    · intro hwu
      -- Neither copy has changed the leaf.
      exact same_of_same_of_leaf hleaf (hsource.ne_number hu) (hexact'.ne_number hw)
        (hexact.ne_number hv) hwu hvu
    · intro _
      exact same_self_of_leaf ((hlater.shape_eq_of_at? hu hw).trans hleaf) (hexact'.ne_number hw)

/-- **Changes are kept**: every path of the original stays, and a leaf there is the later one if
that differs from the original, else the earlier one. -/
theorem at?_overlay_of_at? (hkeys : later.hasUniqueKeys) (hsource : source.IsExact)
    (hexact : earlier.IsExact) (hexact' : later.IsExact) (hearlier : source.Extends earlier)
    (hlater : source.Extends later) (hu : source.at? path = some u)
    (hv : earlier.at? path = some v) (hw : later.at? path = some w) :
    ∃ x, (overlay source earlier later).at? path = some x ∧
      (u.shape = .leaf → (w == u → x == v) ∧ (¬ w == u → x == w)) := by
  induction path generalizing source earlier later with
  | nil =>
    by_cases hsame : later == source ∨ earlier == source
    · exact at?_overlay_of_same hsource hexact hexact' hearlier hlater hsame hu hv hw
    · obtain ⟨hne, hne'⟩ := not_or.1 hsame
      obtain rfl := Option.some.inj hu
      obtain rfl := Option.some.inj hw
      refine ⟨_, rfl, fun hleaf => ⟨fun hsame => absurd hsame hne, fun _ => ?_⟩⟩
      have hleaf' := hlater.shape_eq.trans hleaf
      rw [overlay_of_leaf hleaf' hne hne']
      exact same_self_of_leaf hleaf' (hexact'.ne_number hw)
  | cons step path ih =>
    by_cases hsame : later == source ∨ earlier == source
    · exact at?_overlay_of_same hsource hexact hexact' hearlier hlater hsame hu hv hw
    · obtain ⟨hne, hne'⟩ := not_or.1 hsame
      obtain ⟨a, ha, hu⟩ := exists_child?_of_at? hu
      obtain ⟨b, hb, hextends⟩ := hearlier.child ha
      obtain ⟨c, hc, hextends'⟩ := hlater.child ha
      rw [at?_cons_of_child? hb] at hv
      rw [at?_cons_of_child? hc] at hw
      have hchild := child?_overlay hkeys hearlier.shape_eq hlater.shape_eq hne hne' step
      rw [ha, hb, hc] at hchild
      rw [at?_cons_of_child? hchild]
      exact ih (hasUniqueKeys_of_partOf hkeys (partOf_of_child? hc)) (hsource.child ha)
        (hexact.child hb) (hexact'.child hc) hextends hextends' hu hv hw

/-- **What both copies have done is there.**  Laid over each other they have a path exactly if the
earlier one has it, or the later one has it and they have the same shape wherever both have
something on the way.  At a leaf of the original stands the later one if it differs from the
original, and else the earlier one.  At a path that the original does not have stands what one of
the copies has added there, and the additions of both are merged, so that an earlier leaf stays. -/
theorem at?_overlay (hkeys : later.hasUniqueKeys) (hsource : source.IsExact)
    (hexact : earlier.IsExact) (hexact' : later.IsExact) (hearlier : source.Extends earlier)
    (hlater : source.Extends later) (path : List PathStep) :
    (((overlay source earlier later).at? path).isSome ↔
      (earlier.at? path).isSome ∨
        (later.at? path).isSome ∧ AgreeBefore earlier later path) ∧
    (∀ u, source.at? path = some u → u.shape = .leaf →
      ∃ v w x, earlier.at? path = some v ∧ later.at? path = some w ∧
        (overlay source earlier later).at? path = some x ∧
        (w == u → x == v) ∧ (¬ w == u → x == w)) ∧
    (source.at? path = none →
      (∀ v, earlier.at? path = some v → later.at? path = none →
        (overlay source earlier later).at? path = some v) ∧
      (∀ w, earlier.at? path = none → later.at? path = some w →
        AgreeBefore earlier later path →
        (overlay source earlier later).at? path = some w) ∧
      ∀ v w, earlier.at? path = some v → later.at? path = some w →
        (overlay source earlier later).at? path = some (merge v w) ∧
        (v.shape = .leaf → merge v w = v)) := by
  have hkept : ∀ u, source.at? path = some u →
      ∃ v w x, earlier.at? path = some v ∧ later.at? path = some w ∧
        (overlay source earlier later).at? path = some x ∧
        (u.shape = .leaf → (w == u → x == v) ∧ (¬ w == u → x == w)) := by
    intro u hu
    obtain ⟨v, hv, -⟩ := hearlier path u hu
    obtain ⟨w, hw, -⟩ := hlater path u hu
    obtain ⟨x, hx, hleaf⟩ :=
      at?_overlay_of_at? hkeys hsource hexact hexact' hearlier hlater hu hv hw
    exact ⟨v, w, x, hv, hw, hx, hleaf⟩
  have hadded : source.at? path = none →
      (overlay source earlier later).at? path = (merge earlier later).at? path :=
    at?_overlay_of_at?_eq_none hkeys hearlier hlater
  refine ⟨?paths, fun u hu hleaf => ?leaves, fun hnone => ⟨?first, ?last, ?both⟩⟩
  case paths =>
    cases hu : source.at? path with
    | some u =>
      obtain ⟨v, w, x, hv, -, hx, -⟩ := hkept u hu
      simp [hv, hx]
    | none => rw [hadded hu, isSome_at?_merge_iff hkeys]
  case leaves =>
    obtain ⟨v, w, x, hv, hw, hx, hchange⟩ := hkept u hu
    exact ⟨v, w, x, hv, hw, hx, hchange hleaf⟩
  case first =>
    intro v hv hw
    rw [hadded hnone, at?_merge_of_right_eq_none hkeys hw, hv]
  case last =>
    intro w hv hw hagree
    rw [hadded hnone, at?_merge hkeys hagree, hv, hw, Option.merge_none_left]
  case both =>
    intro v w hv hw
    rw [hadded hnone, at?_merge hkeys (agreeBefore_of_at? hv hw), hv, hw]
    exact ⟨rfl, fun hleaf => merge_of_not_container (shape_eq_leaf_iff.1 hleaf) w⟩

namespace Profile

/-- A profile as it was received. -/
def received : Value := .object [("born", .string "2017-07-26"), ("links", .object [])]

/-- The profile with another text and with a link. -/
def renamed : Value :=
  .object [("born", .string "long ago"), ("links", .object [("home", .integer 1)])]

/-- The profile with links of which one is an object. -/
def linked : Value := .object [
  ("born", .string "2017-07-26"),
  ("links", .object [("home", .object [("port", .integer 2)]), ("work", .bool true)])]

lemma isExact_received : received.IsExact :=
  isExact_object <| List.forall_mem_cons.2 ⟨isExact_of_leaf rfl (by simp),
    List.forall_mem_singleton.2 <| isExact_object (by simp)⟩

lemma isExact_renamed : renamed.IsExact :=
  isExact_object <| List.forall_mem_cons.2 ⟨isExact_of_leaf rfl (by simp),
    List.forall_mem_singleton.2 <| isExact_object <| List.forall_mem_singleton.2 <|
      isExact_of_leaf rfl (by simp)⟩

lemma isExact_linked : linked.IsExact :=
  isExact_object <| List.forall_mem_cons.2 ⟨isExact_of_leaf rfl (by simp),
    List.forall_mem_singleton.2 <| isExact_object <| List.forall_mem_cons.2
      ⟨isExact_object <| List.forall_mem_singleton.2 <| isExact_of_leaf rfl (by simp),
        List.forall_mem_singleton.2 <| isExact_of_leaf rfl (by simp)⟩⟩

lemma extends_renamed : received.Extends renamed :=
  extends_object <| List.forall_mem_cons.2 ⟨⟨_, rfl, extends_of_leaf rfl rfl⟩,
    List.forall_mem_singleton.2 ⟨_, rfl, extends_object (by simp)⟩⟩

lemma extends_linked : received.Extends linked :=
  extends_object <| List.forall_mem_cons.2 ⟨⟨_, rfl, extends_of_leaf rfl rfl⟩,
    List.forall_mem_singleton.2 ⟨_, rfl, extends_object (by simp)⟩⟩

end Profile

open Profile in
/-- The other text stays, and so does the link that was added under a key of its own. -/
theorem changed_text_and_added_link_meet :
    (∃ x, (overlay received renamed linked).at? [.key "born"] = some x ∧
      x == string "long ago") ∧
    (overlay received renamed linked).at? [.key "links", .key "work"] = some (bool true) := by
  have hoverlay := at?_overlay rfl isExact_received isExact_renamed isExact_linked extends_renamed
    extends_linked
  constructor
  · obtain ⟨-, hleaf, -⟩ := hoverlay [.key "born"]
    obtain ⟨v, w, x, hv, hw, hx, hsame, -⟩ := hleaf (.string "2017-07-26") rfl rfl
    obtain rfl : Value.string "long ago" = v := Option.some.inj hv
    obtain rfl : Value.string "2017-07-26" = w := Option.some.inj hw
    exact ⟨x, hx, hsame (by decide)⟩
  · obtain ⟨-, -, hadded⟩ := hoverlay [.key "links", .key "work"]
    refine (hadded rfl).2.1 (.bool true) rfl rfl (agreeBefore_cons.2 ⟨rfl, ?_⟩)
    rintro a b ha hb
    obtain rfl := Option.some.inj ha
    obtain rfl := Option.some.inj hb
    exact agreeBefore_cons.2 ⟨rfl, fun a b _ _ => agreeBefore_nil a b⟩

open Profile in
/-- **An added leaf hides an added object**: both copies have a link that was not there before, and
where only the later one has something below it this is lost. -/
theorem added_leaf_hides_added_object :
    (linked.hasUniqueKeys ∧ received.IsExact ∧ renamed.IsExact ∧ linked.IsExact ∧
      received.Extends renamed ∧ received.Extends linked) ∧
    linked.at? [.key "links", .key "home", .key "port"] = some (integer 2) ∧
    (overlay received renamed linked).at? [.key "links", .key "home", .key "port"] = none := by
  refine ⟨⟨rfl, isExact_received, isExact_renamed, isExact_linked, extends_renamed,
    extends_linked⟩, rfl, ?_⟩
  have hpart : ¬ AgreeBefore renamed linked [.key "links", .key "home", .key "port"] := by
    intro hagree
    have hshape := hagree [.key "links", .key "home"] (.key "port") [] rfl _ _ rfl rfl
    simp [shape] at hshape
  rw [at?_overlay_of_at?_eq_none rfl extends_renamed extends_linked rfl,
    at?_merge_of_not_agreeBefore rfl hpart]
  rfl

end ApiContract.Value
