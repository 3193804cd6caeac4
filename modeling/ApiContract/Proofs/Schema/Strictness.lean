/-
# Stricter formats only reject more

Two validations of one value differ in the formats they know, and whatever the first one's formats
reject, the second one's reject too.  What formats make of a value is laid over the value when all
keywords have been evaluated, and no keyword looks at it.  So the two go the same way, visit by
visit: they end with the same error, or the violations of the first are among those of the second,
in the same order.

This needs schemas that do not reward a violation: `not` turns the violations below it round, and
`oneOf` is violated by a branch too many.
-/
import ApiContract.Proofs.Schema.CycleCheck
import ApiContract.Proofs.Schema.Filling
import ApiContract.Proofs.Schema.Likeness
import ApiContract.Proofs.Walk.Related

namespace ApiContract

/-! ## Fewer violations -/

namespace Violation

/-- What a violation is about, apart from its context. -/
def subject (v : Violation) : Subject :=
  ⟨v.path, v.schemaPath, v.keyword⟩

/-- What some violations are about is what others are about with some left out, in the same
order. -/
def Fewer (vs ws : List Violation) : Prop :=
  (vs.map subject).Sublist (ws.map subject)

namespace Fewer

variable {vs ws : List Violation}

lemma refl (vs : List Violation) : Fewer vs vs :=
  List.Sublist.refl _

lemma nil (ws : List Violation) : Fewer [] ws :=
  List.nil_sublist _

lemma single {v w : Violation} (h : v.subject = w.subject) : Fewer [v] [w] := by
  rw [Fewer, List.map_singleton, List.map_singleton, h]

lemma eq_nil (h : Fewer vs []) : vs = [] :=
  List.map_eq_nil_iff.1 (List.sublist_nil.1 h)

lemma map (h : Fewer vs ws) {f : Violation → Violation} {g : Subject → Subject}
    (hf : ∀ v, (f v).subject = g v.subject) : Fewer (vs.map f) (ws.map f) := by
  have hmap : ∀ us : List Violation, (us.map f).map subject = (us.map subject).map g := by
    intro us
    simp [hf]
  rw [Fewer, hmap, hmap]
  exact List.Sublist.map g h

lemma flatMap {α β : Type} {f : α → List Violation} {g : β → List Violation} {as : List α}
    {bs : List β} (h : List.Forall₂ (fun a b => Fewer (f a) (g b)) as bs) :
    Fewer (as.flatMap f) (bs.flatMap g) := by
  induction h with
  | nil => exact refl []
  | cons hab _ ih =>
    rw [Fewer, List.flatMap_cons, List.flatMap_cons, List.map_append, List.map_append]
    exact hab.append ih

end Fewer

end Violation

/-- An outcome with fewer violations. -/
def Outcome.Milder (o o' : Outcome) : Prop :=
  Violation.Fewer o.violations o'.violations

lemma Outcome.Milder.refl (o : Outcome) : o.Milder o :=
  Violation.Fewer.refl _

lemma Outcome.Milder.under {o o' : Outcome} (h : o.Milder o') (path schemaPath : List PathStep) :
    (o.under path schemaPath).Milder (o'.under path schemaPath) := by
  exact h.map (g := fun s => ⟨path ++ s.path, schemaPath ++ s.schemaPath, s.keyword⟩) fun _ => rfl

/-- A contribution with fewer violations. -/
def Contribution.Milder (c c' : Contribution) : Prop :=
  Violation.Fewer c.violations c'.violations

lemma Contribution.Milder.refl (c : Contribution) : c.Milder c :=
  Violation.Fewer.refl _

lemma Contribution.milder_of_nil {c : Contribution} (h : c.violations = []) (c' : Contribution) :
    c.Milder c' := by
  rw [Milder, h]
  exact .nil _

/-- A part with fewer violations. -/
def Part.Milder {κ : Type} (p p' : Part κ) : Prop :=
  p.outcome.Milder p'.outcome

lemma Part.fewer_violations {κ : Type} {parts parts' : List (Part κ)}
    (h : List.Forall₂ Milder parts parts') :
    Violation.Fewer (violations parts) (violations parts') :=
  .flatMap h

/-! ## Milder formats -/

/-- Formats that reject no value that other formats take. -/
def Formats.IsMilder (formats formats' : Formats) : Prop :=
  ∀ name v change', formats'.check name v = .ok change' →
    ∃ change, formats.check name v = .ok change

namespace Formats

lemma IsMilder.refl (formats : Formats) : formats.IsMilder formats :=
  fun _ _ change h => ⟨change, h⟩

lemma IsMilder.trans {formats formats' formats'' : Formats} (h : formats.IsMilder formats')
    (h' : formats'.IsMilder formats'') : formats.IsMilder formats'' := by
  intro name v change'' hcheck
  obtain ⟨change', hcheck'⟩ := h' name v change'' hcheck
  exact h name v change' hcheck'

/-- Further formats only reject more. -/
lemma isMilder_append (checks more : List (String × FormatCheck)) :
    IsMilder ⟨checks⟩ ⟨checks ++ more⟩ := by
  intro name v change' h
  unfold check at h ⊢
  rw [List.lookup_append] at h
  cases hlookup : checks.lookup name with
  | none => exact ⟨none, rfl⟩
  | some check =>
    rw [hlookup] at h
    exact ⟨change', h⟩

end Formats

namespace Dialect

/-- How strict a dialect is: each adds formats to those of the one before. -/
def strictness : Dialect → Nat
  | draft4 => 0
  | draft5 => 1
  | oas3 => 2

lemma isMilder_formats {d d' : Dialect} (hle : d.strictness ≤ d'.strictness) :
    d.formats.IsMilder d'.formats := by
  have hfifth : Formats.draft4.IsMilder Formats.draft5 := Formats.isMilder_append _ _
  have hlast : Formats.draft5.IsMilder Formats.oas3 := Formats.isMilder_append _ _
  cases d <;> cases d' <;> first
    | exact .refl _
    | exact hfifth
    | exact hlast
    | exact hfifth.trans hlast
    | exact absurd hle (by decide)

end Dialect

/-! ## Keywords -/

/-- The outcomes of all visits that are asked for in a scope are milder than those of others. -/
def Visit.MilderFor (visit visit' : Visit) (scope : String) (asks : Ask → Prop) : Prop :=
  ∀ a, asks a → (visit a.value a.schema).Related Outcome.Milder scope (visit' a.value a.schema)

namespace Applicator

open Constraint (malformed)

variable {val val' : Validator} {visit visit' : Visit} {scope : String} {schema : Fields}
  {v value : Value}

lemma malformed_milder (k : Keyword) (expected : String) :
    (Walk.broken (malformed k expected) : Walk SchemaError Contribution).Related
      Contribution.Milder scope (Walk.broken (malformed k expected)) :=
  .broken (by simp [malformed])

lemma child_milder {κ : Type} {place : κ} {w s : Value} {path schemaPath : List PathStep}
    (h : (visit w s).Related Outcome.Milder scope (visit' w s)) :
    (child visit place w s path schemaPath).Related Part.Milder scope
      (child visit' place w s path schemaPath) :=
  h.onChild.bind_pure fun _ _ ho => ho.under path schemaPath

lemma ref_milder {follow follow' : Follow} (hfollow : ∀ reference, value = .string reference →
      (follow v reference).Related Outcome.Milder scope (follow' v reference)) :
    (ref follow v value).Related Contribution.Milder scope (ref follow' v value) := by
  unfold ref
  split
  · exact (hfollow _ rfl).map fun _ _ ho => ho
  · exact malformed_milder _ _

/-! ### Objects -/

lemma property_milder (hfills : val.fills = false) (hfills' : val'.fills = false)
    {fields : Fields} {name : String} {s : Value}
    (h : ∀ w, fields.lookup name = some w →
      (visit w s).Related Outcome.Milder scope (visit' w s)) :
    (property val visit fields name s).Related Part.Milder scope
      (property val' visit' fields name s) := by
  unfold property
  split
  · rename_i w hw
    exact child_milder (h w hw)
  · -- Nothing is filled in, so both leave the property missing.
    have hdefault : val.declaredDefault s = pure none := by
      simp [Validator.declaredDefault, hfills]
    have hdefault' : val'.declaredDefault s = pure none := by
      simp [Validator.declaredDefault, hfills']
    rw [hdefault, hdefault']
    exact .pure (.refl _)

lemma properties_milder (hfills : val.fills = false) (hfills' : val'.fills = false)
    (h : visit.MilderFor visit' scope (Keyword.Asks schema v value .properties)) :
    (properties val visit v value).Related Contribution.Milder scope
      (properties val' visit' v value) := by
  unfold properties
  split
  · split
    · refine (Walk.Related.mapM fun field hfield => ?_).bind_pure fun _ _ => Part.fewer_violations
      exact property_milder hfills hfills' fun w hw => h _ (.property hfield hw)
    · exact .pure (.refl _)
  · exact malformed_milder _ _

section

variable (hvisit : visit.Steady) (hvisit' : visit'.Steady)

include hvisit hvisit'

lemma patternProperties_milder
    (h : visit.MilderFor visit' scope (Keyword.Asks schema v value .patternProperties)) :
    (patternProperties visit v value).Related Contribution.Milder scope
      (patternProperties visit' v value) := by
  unfold patternProperties
  split
  · split
    · rename_i patterns _ fields
      have hgroups : (patterns.mapM fun entry => matchingFields visit fields entry.1
          entry.2).Related (List.Forall₂ (List.Forall₂ Part.Milder)) scope
          (patterns.mapM fun entry => matchingFields visit' fields entry.1 entry.2) := by
        refine .mapM fun entry hentry => ?_
        refine .bind_same (.pattern entry.1)
          (fun _ => .mapM fun _ _ => child_steady hvisit _ _ _ _ _)
          (fun _ => .mapM fun _ _ => child_steady hvisit' _ _ _ _ _) fun regex here hregex => ?_
        refine .mapM fun field hfield => child_milder ?_
        obtain ⟨hmem, hmatch⟩ := List.mem_filter.1 hfield
        exact h _ (.matching hentry ((Walk.pattern_ok_iff _).1 hregex) hmem hmatch)
      exact hgroups.bind_pure fun _ _ hall => Part.fewer_violations (List.rel_flatten hall)
    · exact .pure (.refl _)
  · exact malformed_milder _ _

lemma additionalProperties_milder
    (h : visit.MilderFor visit' scope (Keyword.Asks schema v value .additionalProperties)) :
    (additionalProperties visit schema v value).Related Contribution.Milder scope
      (additionalProperties visit' schema v value) := by
  unfold additionalProperties
  split
  · exact malformed_milder _ _
  · split
    · rename_i fields
      have hextras := extraFields_steady fields schema
      split
      · refine .bind_same hextras
          (fun _ => (Walk.Steady.mapM fun _ _ => child_steady hvisit _ _ _ _ _).bind fun _ =>
            .pure _)
          (fun _ => (Walk.Steady.mapM fun _ _ => child_steady hvisit' _ _ _ _ _).bind fun _ =>
            .pure _) fun extras here hok => ?_
        refine (Walk.Related.mapM fun field hfield => child_milder ?_).bind_pure
          fun _ _ => Part.fewer_violations
        obtain ⟨hmem, hextra⟩ := (extraFields_ok hok).1 hfield
        exact h _ (.extra hmem hextra)
      · refine .refl (hextras.bind fun extras => ?_) .refl
        split <;> exact .pure _
      · exact .refl (hextras.bind fun _ => .pure _) .refl
    · exact .pure (.refl _)

end

/-! ### Arrays -/

lemma itemParts_milder {schemaPath : Nat → List PathStep} {pairs : List (Value × Value)}
    {start : Nat} (h : ∀ pair ∈ pairs,
      (visit pair.1 pair.2).Related Outcome.Milder scope (visit' pair.1 pair.2)) :
    (itemParts visit start schemaPath pairs).Related (List.Forall₂ Part.Milder) scope
      (itemParts visit' start schemaPath pairs) := by
  induction pairs generalizing start with
  | nil => exact .pure .nil
  | cons pair pairs ih =>
    have hrest := @ih (start + 1) fun pair hpair => h pair (List.mem_cons_of_mem _ hpair)
    exact (child_milder (h pair List.mem_cons_self)).bind
      (fun _ => hrest.left.bind fun _ => .pure _) (fun _ => hrest.right.bind fun _ => .pure _)
      fun _ _ hpart => hrest.bind_pure fun _ _ hparts => .cons hpart hparts

lemma items_milder (h : visit.MilderFor visit' scope (Keyword.Asks schema v value .items)) :
    (items visit v value).Related Contribution.Milder scope (items visit' v value) := by
  unfold items
  split
  · exact malformed_milder _ _
  · split
    · split
      · refine (itemParts_milder fun pair hpair => ?_).bind_pure fun _ _ => Part.fewer_violations
        obtain ⟨i, hi⟩ := List.mem_iff_getElem?.1 hpair
        obtain ⟨hw, hs⟩ := List.getElem?_zip_eq_some.1 hi
        exact h _ (.tuple hw hs)
      · rename_i harray
        refine (itemParts_milder fun pair hpair => ?_).bind_pure fun _ _ => Part.fewer_violations
        obtain ⟨w, hw, rfl⟩ := List.mem_map.1 hpair
        obtain ⟨i, hi⟩ := List.mem_iff_getElem?.1 hw
        exact h _ (.item (Value.array?_eq_none_iff.2 harray) hi)
    · exact .pure (.refl _)

lemma additionalItems_milder
    (h : visit.MilderFor visit' scope (Keyword.Asks schema v value .additionalItems)) :
    (additionalItems visit schema v value).Related Contribution.Milder scope
      (additionalItems visit' schema v value) := by
  unfold additionalItems
  split
  · exact malformed_milder _ _
  · split
    · rename_i vs schemas hv hschemas
      obtain rfl := Value.array?_eq_some_iff.1 hv
      dsimp only
      split
      · refine (itemParts_milder fun pair hpair => ?_).bind_pure fun _ _ => Part.fewer_violations
        obtain ⟨w, hw, rfl⟩ := List.mem_map.1 hpair
        obtain ⟨i, hi⟩ := List.mem_iff_getElem?.1 hw
        rw [List.getElem?_drop] at hi
        exact h _ (.laterItem hschemas (Nat.le_add_right _ i) hi)
      · split <;> exact .pure (.refl _)
      · exact .pure (.refl _)
    · exact .pure (.refl _)

/-! ### Combinations -/

lemma branches_milder {k : Keyword} (hk : k = .allOf ∨ k = .anyOf ∨ k = .oneOf)
    (h : visit.MilderFor visit' scope (Keyword.Asks schema v value k)) :
    (branches visit k v value).Related (List.Forall₂ fun o o' => o.2.Milder o'.2) scope
      (branches visit' k v value) := by
  unfold branches
  split
  · refine .mapM fun branch hmem => ?_
    have hbranch := h ⟨[], [.index branch.2], v, branch.1⟩
      (.branch hk (List.mem_zipIdx_iff_getElem?.1 hmem))
    exact hbranch.bind_pure fun _ _ ho => ho.under _ _
  · exact .broken (by simp [malformed])

section

variable {outcomes outcomes' : List (Nat × Outcome)}

lemma fewer_allViolations
    (h : List.Forall₂ (fun o o' => o.2.Milder o'.2) outcomes outcomes') :
    Violation.Fewer (allViolations outcomes) (allViolations outcomes') :=
  .flatMap h

/-- Whatever no branch takes is not taken by stricter branches either. -/
lemma passing_eq_nil (h : List.Forall₂ (fun o o' => o.2.Milder o'.2) outcomes outcomes')
    (hnil : passing outcomes = []) : passing outcomes' = [] := by
  simp only [passing, List.filter_eq_nil_iff, List.isEmpty_iff] at hnil ⊢
  intro o' ho' hviolations
  obtain ⟨o, ho, hmilder⟩ := exists_left_of_forall₂ h ho'
  rw [Outcome.Milder, hviolations] at hmilder
  exact hnil o ho hmilder.eq_nil

lemma allOf_milder (h : visit.MilderFor visit' scope (Keyword.Asks schema v value .allOf)) :
    (allOf visit v value).Related Contribution.Milder scope (allOf visit' v value) := by
  refine (branches_milder (Or.inl rfl) h).bind (fun _ => ?_) (fun _ => ?_)
    fun outcomes outcomes' hall => ?_
  · split <;> exact .pure _
  · split <;> exact .pure _
  · cases hall with
    | nil => exact .pure (.refl _)
    | cons ho hall => exact .pure (fewer_allViolations (.cons ho hall))

lemma anyOf_milder (h : visit.MilderFor visit' scope (Keyword.Asks schema v value .anyOf)) :
    (anyOf visit v value).Related Contribution.Milder scope (anyOf visit' v value) := by
  refine (branches_milder (Or.inr (Or.inl rfl)) h).bind (fun _ => ?_) (fun _ => ?_)
    fun outcomes outcomes' hall => ?_
  · split <;> exact .pure _
  · split <;> exact .pure _
  · cases hpassing : passing outcomes with
    | nil =>
      rw [passing_eq_nil hall hpassing]
      exact .pure (.single rfl)
    | cons =>
      dsimp only
      split <;> exact .pure (Contribution.milder_of_nil rfl _)

end

/-! ### Texts -/

lemma format_milder (hformats : val.formats.IsMilder val'.formats) :
    (format val v value).Related Contribution.Milder scope (format val' v value) := by
  unfold format
  split
  · rename_i name
    cases hcheck : val.formats.check name v with
    | ok change =>
      dsimp only
      split <;> exact .pure (Contribution.milder_of_nil rfl _)
    | error fault =>
      cases hcheck' : val'.formats.check name v with
      | ok change' =>
        obtain ⟨change, hok⟩ := hformats name v change' hcheck'
        simp [hcheck] at hok
      | error fault' => exact .pure (.single rfl)
  · exact malformed_milder _ _

end Applicator

section

variable {val val' : Validator} {follow follow' : Follow} {visit visit' : Visit} {scope : String}
  {v value : Value}

/-- What a keyword contributes is milder if the visits it asks for and the formats are, except for
the keywords that count violations as a success or a success as a violation. -/
lemma Keyword.contribution_milder (hsteadies : Steadies follow visit)
    (hsteadies' : Steadies follow' visit') (hfills : val.fills = false)
    (hfills' : val'.fills = false) (hformats : val.formats.IsMilder val'.formats)
    {schema : Fields} {k : Keyword} (hnot : k ≠ .not) (hone : k ≠ .oneOf)
    (hvisit : visit.MilderFor visit' scope (Asks schema v value k))
    (hfollow : k = .ref → ∀ reference, value = .string reference →
      (follow v reference).Related Outcome.Milder scope (follow' v reference)) :
    (k.contribution val follow visit schema v value).Related Contribution.Milder scope
      (k.contribution val' follow' visit' schema v value) := by
  have hsame : (k.contribution val follow visit schema v value).Steady :=
    contribution_steady hsteadies.follow hsteadies.visit schema k v value
  cases k with
  | ref => exact Applicator.ref_milder (hfollow rfl)
  | properties => exact Applicator.properties_milder hfills hfills' hvisit
  | patternProperties =>
    exact Applicator.patternProperties_milder hsteadies.visit hsteadies'.visit hvisit
  | additionalProperties =>
    exact Applicator.additionalProperties_milder hsteadies.visit hsteadies'.visit hvisit
  | items => exact Applicator.items_milder hvisit
  | additionalItems => exact Applicator.additionalItems_milder hvisit
  | allOf => exact Applicator.allOf_milder hvisit
  | anyOf => exact Applicator.anyOf_milder hvisit
  | oneOf => exact absurd rfl hone
  | not => exact absurd rfl hnot
  | format => exact Applicator.format_milder hformats
  -- The others look at the value alone.
  | _ => exact .refl hsame .refl

/-! ## Schemas -/

namespace Validator

lemma visitKeyword_milder {fields : Fields} {k : Keyword}
    (h : (k.contribution val follow visit fields v value).Related Contribution.Milder scope
      (k.contribution val' follow' visit' fields v value)) :
    (val.visitKeyword follow visit v fields k value).Related Outcome.Milder scope
      (val'.visitKeyword follow' visit' v fields k value) := by
  exact h.bind_pure fun _ _ hc => hc.map
    (g := fun s => ⟨s.path, .key k.name :: s.schemaPath, s.keyword.or (some k)⟩) fun _ => rfl

/-- A schema is milder if the keywords that count in it are. -/
lemma visitFields_milder {fields : Fields}
    (h : ∀ k value, Keyword.InForce fields v k value →
      (k.contribution val follow visit fields v value).Related Contribution.Milder scope
        (k.contribution val' follow' visit' fields v value)) :
    (val.visitFields follow visit v fields).Related Outcome.Milder scope
      (val'.visitFields follow' visit' v fields) := by
  unfold visitFields
  split
  · rename_i href
    exact visitKeyword_milder (h _ _ ⟨href, Or.inl rfl⟩)
  · rename_i href
    split
    · exact .pure (.refl _)
    · rename_i hnull
      rw [Bool.and_eq_true] at hnull
      unfold visitKeywords
      refine (Walk.Related.mapM (R := fun o o' : Keyword × Outcome => o.2.Milder o'.2)
        fun keyword hmem => ?_).bind_pure fun _ _ hall => Violation.Fewer.flatMap hall
      have hkeyword := h keyword.1 keyword.2
        ⟨Keyword.mem_keywordsOf.1 hmem, Or.inr ⟨href, hnull⟩⟩
      exact (visitKeyword_milder hkeyword).bind_pure fun _ _ ho => ho

lemma visitNode_milder {s : Value}
    (h : ∀ fields, s = .object fields →
      (val.visitFields follow visit v fields).Related Outcome.Milder (scopeInside scope fields)
        (val'.visitFields follow' visit' v fields)) :
    (val.visitNode follow visit v s).Related Outcome.Milder scope
      (val'.visitNode follow' visit' v s) := by
  unfold visitNode
  split
  · rename_i fields
    have hfields := h fields rfl
    split
    · rename_i uri hid
      rw [scopeInside_of_id hid] at hfields
      exact hfields.inScope
    · rename_i hid
      rwa [scopeInside_of_none hid] at hfields
  · exact .broken (by simp)

end Validator

lemma Applicator.follow_milder (store : Store) (hvisit : visit.Steady) (hvisit' : visit'.Steady)
    {reference : String}
    (h : ∀ target, store.resolveUrl (Reference.join scope reference) = .ok target →
      (visit v target).Related Outcome.Milder
        (Reference.join scope (Reference.join scope reference)) (visit' v target)) :
    (Applicator.follow store visit v reference).Related Outcome.Milder scope
      (Applicator.follow store visit' v reference) := by
  refine ⟨follow_steady store hvisit v reference, follow_steady store hvisit' v reference,
    fun here => ?_⟩
  rw [resultAt_follow hvisit, resultAt_follow hvisit']
  cases hfound : store.resolveUrl (Reference.join scope reference) with
  | error e => exact .error e
  | ok target =>
    change Except.Related _ (if _ then _ else _) (if _ then _ else _)
    split
    · exact .error _
    · exact (h target hfound).result _

end

/-! ## Validations -/

/-- No schema that a validation may apply turns violations into a success or a success into a
violation: `not` and `oneOf` do not occur, unless beside a reference, where nothing counts. -/
def Store.IsMonotone (store : Store) (schema : Value) : Prop :=
  ∀ ⦃scope fields⦄, store.MayApply schema scope (.object fields) →
    fields.lookup Keyword.ref.name = none →
    fields.lookup Keyword.not.name = none ∧ fields.lookup Keyword.oneOf.name = none

namespace Value

mutual

/-- Whether no object in a value has a field of one of some names. -/
def avoids (names : List String) : Value → Bool
  | array items => avoidsInItems names items
  | object fields => avoidsInFields names fields
  | _ => true

/-- Whether no object in some items has a field of one of some names. -/
def avoidsInItems (names : List String) : List Value → Bool
  | [] => true
  | v :: vs => avoids names v && avoidsInItems names vs

/-- Whether none of some fields, and no object in them, has one of some names. -/
def avoidsInFields (names : List String) : List (String × Value) → Bool
  | [] => true
  | (name, v) :: fs => !names.contains name && (avoids names v && avoidsInFields names fs)

end

variable {names : List String}

lemma avoids_of_partOf {v w : Value} (h : v.avoids names) (hpart : PartOf w v) :
    w.avoids names := by
  cases hpart with
  | @item _ items hmem =>
    rw [avoids] at h
    induction items with
    | nil => simp at hmem
    | cons u items ih =>
      rw [avoidsInItems, Bool.and_eq_true] at h
      rcases List.mem_cons.1 hmem with rfl | hmem
      · exact h.1
      · exact ih hmem h.2
  | @field name _ fields hmem =>
    rw [avoids] at h
    induction fields with
    | nil => simp at hmem
    | cons field fields ih =>
      rw [avoidsInFields, Bool.and_eq_true, Bool.and_eq_true] at h
      rcases List.mem_cons.1 hmem with rfl | hmem
      · exact h.2.1
      · exact ih hmem h.2.2

lemma avoids_of_contains {v w : Value} (h : v.avoids names) (hcontains : v.Contains w) :
    w.avoids names := by
  induction hcontains using Relation.ReflTransGen.head_induction_on with
  | refl => exact h
  | head hpart _ ih => exact avoids_of_partOf ih hpart

lemma lookup_eq_none_of_avoids {fields : Fields} (h : (object fields).avoids names) {name : String}
    (hname : name ∈ names) : fields.lookup name = none := by
  rw [avoids] at h
  induction fields with
  | nil => rfl
  | cons field fields ih =>
    rw [avoidsInFields, Bool.and_eq_true, Bool.and_eq_true] at h
    have hne : name ≠ field.1 := by
      rintro rfl
      simp [hname] at h
    rw [List.lookup_cons, beq_false_of_ne hne]
    exact ih h.2.2

end Value

/-- Whatever a validation may apply is in the schema or in a document. -/
lemma Store.MayApply.knows {store : Store} {schema s : Value} {scope : String}
    (h : store.MayApply schema scope s) : store.Knows schema s := by
  induction h with
  | root => exact Or.inl (Value.Contains.refl _)
  | asked _ _ hlookup hasks ih =>
    exact ih.contains ((Value.partOf_of_lookup hlookup).contains.trans hasks.contains)
  | jump _ _ hfound _ => exact knows_of_resolveUrl hfound

/-- It is enough that the two keywords do not occur in the schema and in the documents. -/
lemma Store.isMonotone_of_avoids {store : Store} {schema : Value}
    (hschema : schema.avoids [Keyword.not.name, Keyword.oneOf.name])
    (hdocuments : ∀ entry ∈ store.documents,
      entry.2.avoids [Keyword.not.name, Keyword.oneOf.name]) :
    store.IsMonotone schema := by
  intro scope fields happly _
  have havoids : (Value.object fields).avoids [Keyword.not.name, Keyword.oneOf.name] := by
    rcases happly.knows with h | ⟨entry, hentry, h⟩
    · exact Value.avoids_of_contains hschema h
    · exact Value.avoids_of_contains (hdocuments entry hentry) h
  exact ⟨Value.lookup_eq_none_of_avoids havoids (by simp),
    Value.lookup_eq_none_of_avoids havoids (by simp)⟩

namespace Validator

variable {store : Store} {formats formats' : Formats} {schema : Value}

/-- Every visit that a validation with milder formats may make is milder. -/
lemma visit_milder (hformats : formats.IsMilder formats') (hmonotone : store.IsMonotone schema)
    {n : Nat} {scope : String} {v s : Value} (hs : store.MayApply schema scope s) :
    ((mk store formats false).visit n v s).Related Outcome.Milder scope
      ((mk store formats' false).visit n v s) := by
  induction n generalizing scope v s with
  | zero => exact .refl .tooDeep .refl
  | succ n ih =>
    have hsteadies := visit_steadies (mk store formats false) n
    have hsteadies' := visit_steadies (mk store formats' false) n
    refine visitNode_milder fun fields hfields => visitFields_milder fun k value hforce => ?_
    subst hfields
    have hallowed : k ≠ .ref → fields.lookup Keyword.ref.name = none := fun hk =>
      (hforce.2.resolve_left hk).1
    refine Keyword.contribution_milder hsteadies hsteadies' rfl rfl hformats ?_ ?_
      (fun a ha => ?_) ?_
    · rintro rfl
      simpa [(hmonotone hs (hallowed (by simp))).1] using hforce.1
    · rintro rfl
      simpa [(hmonotone hs (hallowed (by simp))).2] using hforce.1
    · -- What a keyword asks for may be applied, since the keyword is no reference.
      have href : k ≠ .ref := by
        rintro rfl
        exact absurd (Keyword.mem_asking_of_asks ha) (by decide)
      exact ih (.asked hs (hallowed href) hforce.1 ha)
    · rintro rfl reference rfl
      exact Applicator.follow_milder store hsteadies.visit hsteadies'.visit fun target hfound =>
        ih (.jump hs hforce.1 hfound)

/-- Two validations that differ in their formats end with the same error, or the one with milder
formats has fewer violations. -/
lemma violationsOf_related (hformats : formats.IsMilder formats')
    (hmonotone : store.IsMonotone schema) (v : Value) :
    Except.Related Violation.Fewer ((mk store formats false).violationsOf v schema)
      ((mk store formats' false).violationsOf v schema) := by
  -- The depth of the visit does not depend on the formats.
  have hvisit := visit_milder hformats hmonotone (n := (mk store formats false).visitDepth v schema)
    (v := v) .root
  have hviolations : ((mk store formats false).violations v schema).Related Violation.Fewer
      store.baseUri ((mk store formats' false).violations v schema) :=
    hvisit.bind_pure fun _ _ ho => ho
  exact hviolations.result []

end Validator

/-- **Stricter dialects only reject more**: where `not` and `oneOf` do not occur and nothing is
filled in, the violations under a dialect are among those under a stricter one, in the same order.
So whatever is valid under the stricter dialect is valid under the other one, and what is fatal
under one dialect is fatal under the other, with the same error. -/
theorem Dialect.stricter_rejects_more {d d' : Dialect} (hle : d.strictness ≤ d'.strictness)
    {store : Store} {schema : Value} (hmonotone : store.IsMonotone schema) (v : Value) :
    (∀ vs vs', (d.validator store).violationsOf v schema = .ok vs →
      (d'.validator store).violationsOf v schema = .ok vs' → Violation.Fewer vs vs') ∧
    (∀ out', (d'.validator store).validate v schema = .ok out' →
      ∃ out, (d.validator store).validate v schema = .ok out) ∧
    (∀ e, (d.validator store).violationsOf v schema = .error e ↔
      (d'.validator store).violationsOf v schema = .error e) ∧
    (∀ e, (d.validator store).validate v schema = .error (Failure.ofSchema e) ↔
      (d'.validator store).validate v schema = .error (Failure.ofSchema e)) := by
  have hrelated : Except.Related Violation.Fewer ((d.validator store).violationsOf v schema)
      ((d'.validator store).violationsOf v schema) :=
    Validator.violationsOf_related (isMilder_formats hle) hmonotone v
  refine ⟨fun vs vs' hvs hvs' => ?_, fun out' hout' => ?_, hrelated.eq_error_iff, fun e => ?_⟩
  · obtain ⟨ws, hws, hfewer⟩ := hrelated.exists_right hvs
    obtain rfl := Except.ok.inj (hvs'.symm.trans hws)
    exact hfewer
  · obtain ⟨o', ho', hnil, -⟩ := Validator.validate_eq_ok_iff.1 hout'
    obtain ⟨vs, hvs, hfewer⟩ :=
      hrelated.exists_left (Validator.violationsOf_eq_ok_iff.2 ⟨o', ho', hnil⟩)
    obtain ⟨o, ho, rfl⟩ := Validator.violationsOf_eq_ok_iff.1 hvs
    exact ⟨_, Validator.validate_eq_ok_iff.2 ⟨o, ho, hfewer.eq_nil, rfl⟩⟩
  · rw [Validator.validate_eq_error_iff, Validator.validate_eq_error_iff]
    exact hrelated.eq_error_iff e

namespace Counts

/-- Counts are not negative and have 32 bits; a text may stand for one. -/
def count : Value := .object [
  ("minimum", .integer 0),
  ("anyOf", .array [.object [("format", .string "int32")], .object [("type", .string "string")]])]

/-- A document that defines them. -/
def document : Value := .object [("definitions", .object [("count", count)])]

/-- A list of counts. -/
def schema : Value := .object [("items", .object [("$ref", .string "#/definitions/count")])]

/-- A count that is too large and one that is negative. -/
def value : Value := .array [.integer 2147483648, .integer (-1)]

end Counts

/-- A count that is too large is reported by the dialect of interface descriptions only, beside one
that is negative. -/
theorem large_count_is_reported_by_oas3 :
    Dialect.draft5.strictness ≤ Dialect.oas3.strictness ∧
    (Store.ofRoot "" Counts.document).IsMonotone Counts.schema ∧
    ∃ negative large negative' : Violation,
      (Dialect.draft5.validator (.ofRoot "" Counts.document)).violationsOf Counts.value
        Counts.schema = .ok [negative] ∧
      (Dialect.oas3.validator (.ofRoot "" Counts.document)).violationsOf Counts.value
        Counts.schema = .ok [large, negative'] ∧
      Violation.Fewer [negative] [large, negative'] := by
  have hle : Dialect.draft5.strictness ≤ Dialect.oas3.strictness := by decide
  have hmonotone : (Store.ofRoot "" Counts.document).IsMonotone Counts.schema := by
    refine Store.isMonotone_of_avoids (by decide) fun entry hentry => ?_
    obtain rfl := List.mem_singleton.1 hentry
    decide
  obtain ⟨negative, hmild⟩ : ∃ negative,
      (Dialect.draft5.validator (.ofRoot "" Counts.document)).violationsOf Counts.value
        Counts.schema = .ok [negative] := ⟨_, rfl⟩
  obtain ⟨large, negative', hstrict⟩ : ∃ large negative',
      (Dialect.oas3.validator (.ofRoot "" Counts.document)).violationsOf Counts.value
        Counts.schema = .ok [large, negative'] := ⟨_, _, rfl⟩
  exact ⟨hle, hmonotone, negative, large, negative', hmild, hstrict,
    (Dialect.stricter_rejects_more hle hmonotone Counts.value).1 _ _ hmild hstrict⟩

end ApiContract
