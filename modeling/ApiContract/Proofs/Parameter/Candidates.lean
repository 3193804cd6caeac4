/-
# Candidates of a union

The text of a union is converted by one member after another, and the first member that takes what
it makes of the text decides which candidate the union settles on.  Then the candidate is validated
against the whole union.

If the union lists its members under `anyOf`, the candidate is taken again, as the member that
has made it takes it.  If it lists them under `oneOf`, no other member may take it.  Either way
no member may break on it.
-/
import ApiContract.Proofs.Parameter.Refusals
import ApiContract.Proofs.Schema.Alternatives

namespace ApiContract

open Validator (reference? lookupDepth ListsMembers)

/-- A schema of values without parts: it stands for itself and has a single type. -/
def IsLeafSchema (schema : Value) : Prop :=
  reference? schema = none ∧
    ∃ type, schema.get? "type" = some (.string type) ∧ isPrimitive type = true

/-- A member takes a text: it makes a candidate of it that satisfies the member. -/
def TakesText (val : Validator) (text : String) (m candidate : Value) : Prop :=
  val.run (val.coerced m (.string text)) = .ok candidate ∧ val.violationsOf candidate m = .ok []

/-- Members settle on the candidate of the first of them that takes a text. -/
def SettlesOn (val : Validator) (text : String) (members : List Value) (candidate : Value) : Prop :=
  ∃ before m after, members = before ++ m :: after ∧
    (∀ m' ∈ before, ∀ c, ¬ TakesText val text m' c) ∧ TakesText val text m candidate

/-- No member breaks on what a member makes of a text. -/
def JudgesCandidates (val : Validator) (text : String) (members : List Value) : Prop :=
  ∀ m ∈ members, ∀ c, val.run (val.coerced m (.string text)) = .ok c →
    ∀ m' ∈ members, ∃ vs, val.violationsOf c m' = .ok vs

section

variable {val : Validator} {text : String} {m c : Value} {members : List Value}

lemma SettlesOn.cons (hno : ∀ c, ¬ TakesText val text m c) (h : SettlesOn val text members c) :
    SettlesOn val text (m :: members) c := by
  obtain ⟨before, m', after, rfl, hbefore, htakes⟩ := h
  exact ⟨m :: before, m', after, rfl, List.forall_mem_cons.2 ⟨hno, hbefore⟩, htakes⟩

lemma SettlesOn.exists_takes (h : SettlesOn val text members c) :
    ∃ m ∈ members, TakesText val text m c := by
  obtain ⟨before, m, after, rfl, -, htakes⟩ := h
  exact ⟨m, by simp, htakes⟩

/-- If a member takes a text, the members settle on a candidate. -/
lemma exists_settlesOn (h : ∃ m ∈ members, ∃ c, TakesText val text m c) :
    ∃ c, SettlesOn val text members c := by
  induction members with
  | nil => simp at h
  | cons m members ih =>
    by_cases hm : ∃ c, TakesText val text m c
    · obtain ⟨c, hc⟩ := hm
      exact ⟨c, [], m, members, rfl, by simp, hc⟩
    · obtain ⟨c, hc⟩ := ih ((List.exists_mem_cons_iff ..).1 h |>.resolve_left hm)
      exact ⟨c, hc.cons fun c' hc' => hm ⟨c', hc'⟩⟩

end

/-- Whether members break on candidates can be computed. -/
instance (val : Validator) (text : String) (members : List Value) :
    Decidable (JudgesCandidates val text members) :=
  decidable_of_iff
    (∀ m ∈ members, ∀ m' ∈ members, (val.run (val.coerced m (.string text))).toOption.all
      fun c => (val.violationsOf c m').toOption.isSome) <| by
    refine forall₂_congr fun m _ => ⟨fun h c hc m' hm' => ?_, fun h m' hm' => ?_⟩
    · have hjudged := h m' hm'
      rw [hc] at hjudged
      cases hvs : val.violationsOf c m' with
      | error e => simp [hvs, Except.toOption] at hjudged
      | ok vs => exact ⟨vs, rfl⟩
    · cases hc : val.run (val.coerced m (.string text)) with
      | error e => rfl
      | ok c =>
        obtain ⟨vs, hvs⟩ := h c hc m' hm'
        simp [Except.toOption, hvs]

namespace Coercion

open Walk

variable {val : Validator} {n : Nat} {scope text type : String} {here : List String}
  {schema m c : Value} {members : List Value}

/-! ## Single members -/

/-- A result that is no error of a schema and, if it is a value, has no parts and is not null. -/
structure IsLeafResult (r : Except CoercionError Value) : Prop where
  own : IsOwn r
  leaf : ∀ c, r = .ok c → ¬ c.isContainer ∧ c.isNull = false

lemma boolean_isLeafResult (text : String) : IsLeafResult (boolean text) := by
  refine ⟨boolean_isOwn text, fun c hc => ?_⟩
  unfold boolean at hc
  split at hc <;> cases hc <;> exact ⟨Bool.false_ne_true, rfl⟩

lemma integer_isLeafResult (format : Option String) (text : String) :
    IsLeafResult (integer format text) := by
  refine ⟨integer_isOwn format text, fun c hc => ?_⟩
  unfold integer at hc
  split at hc
  · cases hc
  · split at hc
    split at hc <;> cases hc
    exact ⟨Bool.false_ne_true, rfl⟩

lemma number_isLeafResult (text : String) : IsLeafResult (number text) := by
  refine ⟨number_isOwn text, fun c hc => ?_⟩
  unfold number at hc
  split at hc <;> cases hc
  exact ⟨Bool.false_ne_true, rfl⟩

lemma string_isLeafResult (text : String) : IsLeafResult (.ok (.string text)) := by
  refine ⟨fun _ => by simp, fun c hc => ?_⟩
  cases hc
  exact ⟨Bool.false_ne_true, rfl⟩

/-- A member makes the same of a text wherever the conversion is. -/
lemma exists_convert_eq (h : IsLeafSchema m) (val : Validator) (text : String) :
    ∃ r, IsLeafResult r ∧ ∀ n, convert val (n + 1) m (.string text) = ofType.liftExcept r := by
  obtain ⟨href, type, htype, hprimitive⟩ := h
  obtain ⟨fields, rfl⟩ : ∃ fields, m = .object fields := by
    cases m with
    | object fields => exact ⟨fields, rfl⟩
    | _ => cases htype
  have hconvert (n : Nat) : convert val (n + 1) (.object fields) (.string text) =
      ofType (convert val n) (.object fields) type (.string text) := convert_of_type href htype
  obtain rfl | rfl | rfl | rfl :
      type = "string" ∨ type = "integer" ∨ type = "number" ∨ type = "boolean" := by
    simpa [isPrimitive] using hprimitive
  · exact ⟨_, string_isLeafResult text, hconvert⟩
  · exact ⟨_, integer_isLeafResult _ text, hconvert⟩
  · exact ⟨_, number_isLeafResult text, hconvert⟩
  · exact ⟨_, boolean_isLeafResult text, hconvert⟩

/-- What a member makes of a text has no parts, and it is the same wherever the conversion is. -/
lemma convert_leaf (h : IsLeafSchema m) (val : Validator) (text : String) :
    IsLeafResult (val.run (val.coerced m (.string text))) ∧
      ∀ n, convert val (n + 1) m (.string text) =
        ofType.liftExcept (val.run (val.coerced m (.string text))) := by
  obtain ⟨r, hr, hconvert⟩ := exists_convert_eq h val text
  have hrun : val.run (val.coerced m (.string text)) = r := by
    rw [Validator.coerced, hconvert]
    cases r <;> rfl
  rw [hrun]
  exact ⟨hr, hconvert⟩

lemma resultAt_convert_leaf (h : IsLeafSchema m) :
    (convert val (n + 1) m (.string text)).resultAt scope here =
      val.run (val.coerced m (.string text)) := by
  rw [(convert_leaf h val text).2, resultAt_liftExcept]

/-! ## One member after another -/

variable {i : Nat} {branches : List (Value × Nat)} {violations : List Violation}

/-- What a member makes of a text is judged; if it is rejected, the next member is tried. -/
lemma resultAt_ofUnion_of_ok (h : IsLeafSchema m)
    (hc : val.run (val.coerced m (.string text)) = .ok c) :
    (ofUnion val (convert val (n + 1)) (.string text) ((m, i) :: branches) violations).resultAt
        scope here =
      (val.violationsOf c m).mapError CoercionFault.schema >>= fun rejected =>
        if rejected.isEmpty then .ok c
        else (ofUnion val (convert val (n + 1)) (.string text) branches
          (violations ++ rejected)).resultAt scope here := by
  rw [resultAt_ofUnion_cons (convert_steady val (n + 1)), resultAt_convert_leaf h, hc]

/-- If a member cannot convert a text, the next one is tried. -/
lemma resultAt_ofUnion_of_error (h : IsLeafSchema m) {e : CoercionError}
    (he : val.run (val.coerced m (.string text)) = .error e) :
    ∃ more, (ofUnion val (convert val (n + 1)) (.string text) ((m, i) :: branches)
        violations).resultAt scope here =
      (ofUnion val (convert val (n + 1)) (.string text) branches
        (violations ++ more)).resultAt scope here := by
  rw [resultAt_ofUnion_cons (convert_steady val (n + 1)), resultAt_convert_leaf h, he]
  cases e with
  | schema e => exact absurd he ((convert_leaf h val text).1.own e)
  | boolean | integer | outOfRange | number | noCandidate => exact ⟨_, rfl⟩

/-- What a union makes of a text is what its members settle on. -/
lemma settlesOn_of_ofUnion (hmembers : ∀ m ∈ members, IsLeafSchema m) {start : Nat}
    (h : (ofUnion val (convert val (n + 1)) (.string text) (members.zipIdx start)
      violations).resultAt scope here = .ok c) : SettlesOn val text members c := by
  induction members generalizing start violations with
  | nil => cases h
  | cons m members ih =>
    obtain ⟨hm, hmembers⟩ := List.forall_mem_cons.1 hmembers
    rw [List.zipIdx_cons] at h
    cases hresult : val.run (val.coerced m (.string text)) with
    | error e =>
      obtain ⟨more, heq⟩ := resultAt_ofUnion_of_error hm hresult
      rw [heq] at h
      refine (ih hmembers h).cons fun c' htakes => ?_
      simp [htakes.1] at hresult
    | ok c' =>
      rw [resultAt_ofUnion_of_ok hm hresult] at h
      obtain ⟨rejected, hrejected, h⟩ := Except.bind_eq_ok_iff.1 h
      rw [Except.mapError_eq_ok_iff] at hrejected
      split at h
      · rename_i hempty
        cases h
        rw [List.isEmpty_iff.1 hempty] at hrejected
        exact ⟨[], m, members, rfl, by simp, hresult, hrejected⟩
      · rename_i hsome
        refine (ih hmembers h).cons fun c'' htakes => hsome ?_
        obtain rfl := Except.ok.inj (hresult.symm.trans htakes.1)
        rw [Except.ok.inj (hrejected.symm.trans htakes.2)]
        rfl

/-- A union makes of a text what its members settle on, if no member breaks on what it makes of
the text itself. -/
lemma ofUnion_of_settlesOn (hmembers : ∀ m ∈ members, IsLeafSchema m)
    (hjudges : ∀ m ∈ members, ∀ c, val.run (val.coerced m (.string text)) = .ok c →
      ∃ vs, val.violationsOf c m = .ok vs)
    (h : SettlesOn val text members c) {start : Nat} :
    (ofUnion val (convert val (n + 1)) (.string text) (members.zipIdx start) violations).resultAt
      scope here = .ok c := by
  obtain ⟨before, m, after, rfl, hbefore, hconverts, haccepts⟩ := h
  induction before generalizing start violations with
  | nil =>
    rw [List.nil_append, List.zipIdx_cons, resultAt_ofUnion_of_ok (hmembers m (by simp)) hconverts,
      haccepts]
    rfl
  | cons m' before ih =>
    obtain ⟨hm', hmembers⟩ := List.forall_mem_cons.1 hmembers
    obtain ⟨hjudged, hjudges⟩ := List.forall_mem_cons.1 hjudges
    obtain ⟨hno, hbefore⟩ := List.forall_mem_cons.1 hbefore
    rw [List.cons_append, List.zipIdx_cons]
    cases hresult : val.run (val.coerced m' (.string text)) with
    | error e =>
      obtain ⟨more, heq⟩ := resultAt_ofUnion_of_error hm' hresult
      rw [heq]
      exact ih hmembers hjudges hbefore
    | ok c' =>
      obtain ⟨vs, hvs⟩ := hjudged c' hresult
      have hrejected : ¬ vs.isEmpty = true := fun hempty => by
        rw [List.isEmpty_iff.1 hempty] at hvs
        exact hno c' ⟨hresult, hvs⟩
      rw [resultAt_ofUnion_of_ok hm' hresult, hvs]
      refine (if_neg hrejected).trans ?_
      exact ih hmembers hjudges hbefore

/-! ## The union -/

variable {k : Keyword} {fields : Fields}

/-- A schema that lists alternatives is a union of them. -/
lemma unionBranches?_eq (h : ListsMembers k members fields) (hk : k = .anyOf ∨ k = .oneOf) :
    unionBranches? (.object fields) = some members := by
  have hlookup : fields.lookup k.name = some (.array members) :=
    Keyword.mem_keywordsOf.1 (by simp [h.keywords])
  have hnone (k' : Keyword) (hk' : k' ≠ k) : fields.lookup k'.name = none :=
    Validator.lookup_eq_none_of_not_mem (by simp [h.keywords, hk'])
  have htype : (Value.object fields).get? "type" = none :=
    hnone .type (by rcases hk with rfl | rfl <;> simp)
  rw [unionBranches?, htype]
  rcases hk with rfl | rfl
  · have hone : (Value.object fields).get? "oneOf" = none := hnone .oneOf (by simp)
    have hany : (Value.object fields).get? "anyOf" = some (.array members) := hlookup
    simp [hone, hany, Value.array?]
  · have hone : (Value.object fields).get? "oneOf" = some (.array members) := hlookup
    simp [hone, Value.array?]

lemma reference?_union (h : ListsMembers k members fields) (hk : k = .anyOf ∨ k = .oneOf) :
    reference? (.object fields) = none := by
  refine reference?_eq_none (Validator.lookup_eq_none_of_not_mem ?_)
  rcases hk with rfl | rfl <;> simp [h.keywords]

lemma convert_union (h : ListsMembers k members fields) (hk : k = .anyOf ∨ k = .oneOf)
    (n : Nat) (v : Value) : convert val (n + 1) (.object fields) v =
      ofUnion val (convert val n) v members.zipIdx [] := by
  rw [convert, reference?_union h hk, unionBranches?_eq h hk]

lemma settlesOn_of_coerced (h : ListsMembers k members fields) (hk : k = .anyOf ∨ k = .oneOf)
    (hmembers : ∀ m ∈ members, IsLeafSchema m)
    (hc : val.run (val.coerced (.object fields) (.string text)) = .ok c) :
    SettlesOn val text members c := by
  rw [Validator.coerced, convert_union h hk] at hc
  exact settlesOn_of_ofUnion hmembers hc

lemma coerced_of_settlesOn (h : ListsMembers k members fields) (hk : k = .anyOf ∨ k = .oneOf)
    (hmembers : ∀ m ∈ members, IsLeafSchema m) (hjudges : JudgesCandidates val text members)
    (hc : SettlesOn val text members c) :
    val.run (val.coerced (.object fields) (.string text)) = .ok c := by
  rw [Validator.coerced, convert_union h hk]
  exact ofUnion_of_settlesOn hmembers (fun m hm c hc => hjudges m hm c hc m hm) hc

/-- The text of a union of values without parts is not taken apart. -/
lemma typeOf_union (h : ListsMembers k members fields) (hk : k = .anyOf ∨ k = .oneOf)
    (hmembers : ∀ m ∈ members, IsLeafSchema m) (store : Store) :
    typeOf store (n + 2) (.object fields) = pure "string" := by
  have hexpect : expectPrimitive (typeOf store (n + 1)) members = pure () := by
    clear h
    induction members with
    | nil => rfl
    | cons m members ih =>
      obtain ⟨⟨href, type, htype, hprimitive⟩, hmembers⟩ := List.forall_mem_cons.1 hmembers
      have htypeOf : typeOf store (n + 1) m = pure type := by
        rw [typeOf, href, htype]
      rw [expectPrimitive, htypeOf, pure_bind, if_pos hprimitive, ih hmembers]
  have htype : (Value.object fields).get? "type" = none :=
    Validator.lookup_eq_none_of_not_mem (k := .type)
      (by rcases hk with rfl | rfl <;> simp [h.keywords])
  rw [typeOf, reference?_union h hk, htype, unionBranches?_eq h hk]
  dsimp only
  rw [hexpect, pure_bind]

end Coercion

/-! ## Parameters -/

namespace Parameter

variable {val : Validator} {p : Parameter} {source : Source} {text : String} {k : Keyword}
  {members : List Value} {fields : Fields} {c : Value}

/-- A request brings a text for a parameter, in a style that passes single texts on. -/
structure Brings (source : Source) (text : String) (p : Parameter) : Prop where
  /-- The parameter may not be empty. -/
  plain : p.allowsEmpty = false
  /-- The style. -/
  style : p.style = .simple ∨ p.style = .form
  /-- The text is where the parameter is looked for. -/
  text : match p.location with
    | .path => source.path.lookup p.name = some text
    | .query => ∃ texts, source.query.lookup p.name = some (text :: texts)
    | .header => source.request.header? p.name = some text
    | .cookie => False

lemma Brings.find_eq (h : Brings source text p) (val : Validator) :
    p.find val "string" source = .ok (.raw (.string text)) := by
  have htext := h.text
  rw [find]
  cases hlocation : p.location with
  | path =>
    simp only [hlocation] at htext
    simp [htext, Found.ofRaw]
  | query =>
    simp only [hlocation] at htext
    obtain ⟨texts, hlookup⟩ := htext
    have hdeep : p.style ≠ .deepObject := by rcases h.style with hs | hs <;> simp [hs]
    simp [findInQuery, hdeep, hlookup, Found.ofRaw]
  | header =>
    simp only [hlocation] at htext
    simp [htext, Found.ofRaw]
  | cookie => simp only [hlocation] at htext

lemma Brings.decode_eq (h : Brings source text p) :
    p.decode "string" (.string text) = .ok (.string text) := by
  have hchoose : Strategy.choose p.style p.explode "string" = .ok .passThrough := by
    rcases h.style with hs | hs <;> rw [hs] <;> cases p.explode <;> rfl
  rw [decode, hchoose]
  rfl

/-- The text of a union is converted and validated. -/
lemma check_union_iff (hp : p.schema = some (.object fields)) (hbrings : Brings source text p)
    (hlists : ListsMembers k members fields) (hk : k = .anyOf ∨ k = .oneOf)
    (hmembers : ∀ m ∈ members, IsLeafSchema m) :
    (∃ found, p.check val source = .ok found) ↔
      ∃ c, val.run (val.coerced (.object fields) (.string text)) = .ok c ∧
        ∃ out, val.validate c (.object fields) = .ok out := by
  have htype : p.declaredType val = .ok "string" := by
    rw [declaredType, hp]
    dsimp only
    rw [Validator.declaredType, lookupDepth, Coercion.typeOf_union hlists hk hmembers]
    rfl
  have hsupported : p.style.isSupported = true := by
    rcases hbrings.style with hs | hs <;> rw [hs] <;> rfl
  have hsought : p.Sought val "string" := ⟨hbrings.plain, hsupported, htype⟩
  rw [hsought.check_of_raw (hbrings.find_eq val), hbrings.decode_eq]
  constructor
  · rintro ⟨found, hfound⟩
    obtain ⟨w, hw, -⟩ := Except.map_eq_ok_iff.1 hfound
    obtain ⟨c, out, hc, hout, -⟩ := (typed_eq_ok_iff hp).1 hw
    exact ⟨c, hc, out, hout⟩
  · rintro ⟨c, hc, out, hout⟩
    exact ⟨some out.value,
      Except.map_eq_ok_iff.2 ⟨_, (typed_eq_ok_iff hp).2 ⟨c, out, hc, hout, rfl⟩, rfl⟩⟩

/-- The candidate that members settle on is valid if the keyword allows that so many of them take
it. -/
lemma validate_iff_of_settlesOn (hlists : ListsMembers k members fields)
    (hk : k = .anyOf ∨ k = .oneOf) (hmembers : ∀ m ∈ members, IsLeafSchema m)
    (hjudges : JudgesCandidates val text members) (h : SettlesOn val text members c) :
    (∃ out, val.validate c (.object fields) = .ok out) ↔
      k.Allows (members.countP (val.accepts c)) := by
  obtain ⟨m, hm, htakes⟩ := h.exists_takes
  obtain ⟨hleaf, hnull⟩ := (Coercion.convert_leaf (hmembers m hm) val text).1.leaf c htakes.1
  exact hlists.validate_iff_allows hk hleaf hnull (hjudges m hm c htakes.1)

/-- The member that has made the candidate takes it, and that is enough for `anyOf`. -/
lemma allows_of_settlesOn (h : SettlesOn val text members c) :
    Keyword.anyOf.Allows (members.countP (val.accepts c)) := by
  obtain ⟨m, hm, htakes⟩ := h.exists_takes
  exact Or.inl ⟨rfl, List.countP_pos_iff.2 ⟨m, hm, Validator.accepts_iff.2 htakes.2⟩⟩

/-- **A union parameter is accepted with the candidate that its members settle on**.  Let the
schema of a parameter list members with a single type each, none of which has parts, and let a
request bring a text for the parameter.  If the text is accepted, then one of the members takes it.
As long as no member breaks on a candidate, it is accepted exactly if the members settle on a
candidate and the keyword allows that so many of them take this candidate: for `anyOf`, if one of
the members takes the text; for `oneOf`, if besides no other member takes the candidate of the
first one. -/
theorem check_union (hp : p.schema = some (.object fields)) (hbrings : Brings source text p)
    (hlists : ListsMembers k members fields) (hk : k = .anyOf ∨ k = .oneOf)
    (hmembers : ∀ m ∈ members, IsLeafSchema m) :
    ((∃ found, p.check val source = .ok found) → ∃ m ∈ members, ∃ c, TakesText val text m c) ∧
    (JudgesCandidates val text members →
      ((∃ found, p.check val source = .ok found) ↔
        ∃ c, SettlesOn val text members c ∧ k.Allows (members.countP (val.accepts c))) ∧
      (k = .anyOf →
        ((∃ found, p.check val source = .ok found) ↔ ∃ m ∈ members, ∃ c, TakesText val text m c) ∧
        ∀ c, val.run (val.coerced (.object fields) (.string text)) = .ok c →
          ∃ out, val.validate c (.object fields) = .ok out)) := by
  rw [check_union_iff hp hbrings hlists hk hmembers]
  refine ⟨?_, fun hjudges => ?_⟩
  · rintro ⟨c, hc, -⟩
    obtain ⟨m, hm, htakes⟩ :=
      (Coercion.settlesOn_of_coerced hlists hk hmembers hc).exists_takes
    exact ⟨m, hm, c, htakes⟩
  have hsettles (c : Value) : val.run (val.coerced (.object fields) (.string text)) = .ok c ↔
      SettlesOn val text members c :=
    ⟨Coercion.settlesOn_of_coerced hlists hk hmembers,
      Coercion.coerced_of_settlesOn hlists hk hmembers hjudges⟩
  have haccepted : (∃ c, val.run (val.coerced (.object fields) (.string text)) = .ok c ∧
      ∃ out, val.validate c (.object fields) = .ok out) ↔
      ∃ c, SettlesOn val text members c ∧ k.Allows (members.countP (val.accepts c)) := by
    refine exists_congr fun c => ?_
    rw [hsettles]
    exact and_congr_right (validate_iff_of_settlesOn hlists hk hmembers hjudges)
  refine ⟨haccepted, ?_⟩
  rintro rfl
  refine ⟨haccepted.trans ⟨?_, fun h => ?_⟩, fun c hc => ?_⟩
  · rintro ⟨c, hc, -⟩
    obtain ⟨m, hm, htakes⟩ := hc.exists_takes
    exact ⟨m, hm, c, htakes⟩
  · obtain ⟨c, hc⟩ := exists_settlesOn h
    exact ⟨c, hc, allows_of_settlesOn hc⟩
  · rw [hsettles] at hc
    exact (validate_iff_of_settlesOn hlists hk hmembers hjudges hc).2 (allows_of_settlesOn hc)

/-! ### Unions of some types -/

namespace Mixed

/-- The schema of a type. -/
def single (type : String) : Value := .object [("type", .string type)]

/-- The schema of integers from ten on. -/
def large : Value := .object [("type", .string "integer"), ("minimum", .integer 10)]

/-- The schema of texts with a pattern that is none. -/
def broken : Value := .object [("type", .string "string"), ("pattern", .string "(")]

/-- A parameter in a query, whose schema lists members. -/
def parameter (k : Keyword) (members : List Value) : Parameter :=
  ⟨"p", .query, .form, true, true, false, some (.object [(k.name, .array members)])⟩

/-- A request with a text. -/
def sent (text : String) : Source := ⟨[], [("p", [text])], {}⟩

end Mixed

open Mixed

/-- A large integer is taken as such, although it is a text as well: as an integer it satisfies no
other member. -/
theorem large_integer_is_accepted :
    JudgesCandidates Dialect.oas3.alone "12" [large, single "boolean", single "string"] ∧
      ∃ found, (parameter .oneOf [large, single "boolean", single "string"]).check
        Dialect.oas3.alone (sent "12") = .ok found := by
  have hjudges : JudgesCandidates Dialect.oas3.alone "12"
      [large, single "boolean", single "string"] := by decide
  have hbrings : Brings (sent "12") "12"
      (parameter .oneOf [large, single "boolean", single "string"]) := ⟨rfl, Or.inr rfl, ⟨[], rfl⟩⟩
  have hmembers : ∀ m ∈ [large, single "boolean", single "string"], IsLeafSchema m := by
    simp only [List.forall_mem_cons]
    exact ⟨⟨rfl, _, rfl, rfl⟩, ⟨rfl, _, rfl, rfl⟩, ⟨rfl, _, rfl, rfl⟩, by simp⟩
  have hsettles : SettlesOn Dialect.oas3.alone "12" [large, single "boolean", single "string"]
      (.integer 12) := ⟨[], large, _, rfl, by simp, rfl, rfl⟩
  have hone : [large, single "boolean", single "string"].countP
      (Dialect.oas3.alone.accepts (.integer 12)) = 1 := by decide
  obtain ⟨-, hunion⟩ := @check_union Dialect.oas3.alone _ _ _ _ _ _ rfl hbrings ⟨rfl, rfl⟩
    (Or.inr rfl) hmembers
  exact ⟨hjudges, (hunion hjudges).1.2 ⟨_, hsettles, Or.inr ⟨rfl, hone⟩⟩⟩

/-- **Two members that take one candidate refuse it.**  Both members of a union of integers and
numbers take a text with an integer, but the integer that is made of it is a number as well, so the
text is refused; with the members in the other order it is accepted as a number.  A text that a
member of `anyOf` takes is refused if another member breaks on it. -/
theorem taken_texts_are_refused :
    (∀ m ∈ [single "integer", single "number"], ∃ c, TakesText Dialect.oas3.alone "5" m c) ∧
    ((parameter .oneOf [single "integer", single "number"]).check Dialect.oas3.alone
      (sent "5")).toOption = none ∧
    ((parameter .oneOf [single "number", single "integer"]).check Dialect.oas3.alone
      (sent "5")).toOption ≠ none ∧
    (∃ c, TakesText Dialect.oas3.alone "x" (single "string") c) ∧
    ((parameter .anyOf [single "string", broken]).check Dialect.oas3.alone
      (sent "x")).toOption = none := by
  refine ⟨?_, by decide, by decide, ⟨_, rfl, rfl⟩, by decide⟩
  simp only [List.forall_mem_cons]
  exact ⟨⟨_, rfl, rfl⟩, ⟨_, rfl, rfl⟩, by simp⟩

end Parameter

end ApiContract
