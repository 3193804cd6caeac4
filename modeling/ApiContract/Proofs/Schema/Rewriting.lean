/-
# How validation changes values

What validation makes of a value is put together from what it makes of the value's parts: parts
are changed in their places, the values of several branches are merged, and what several
keywords have changed is laid over each other.  A law that is closed under all of this, and that
formats obey, is obeyed by every validation.

That a value is refined is such a law.  So whatever is validated comes back as it was, apart
from texts that have been read and from fields that have been filled in.
-/
import ApiContract.Proofs.Schema.Format
import ApiContract.Proofs.Schema.Location
import ApiContract.Proofs.Schema.Reach
import ApiContract.Proofs.Value.Merge

namespace ApiContract

/-! ## Laws of changes -/

/-- A part of an object is changed by a law: a field that is there is, and nothing is made of a
field that is missing unless missing fields are filled. -/
inductive Part.Lawful (Good : Value → Option Value → Prop) (fills : Bool) (fields : Fields)
    (p : Part String) : Prop
  | present {w : Value} :
      (p.place, w) ∈ fields → Good w p.outcome.change → Lawful Good fills fields p
  | missing :
      fields.lookup p.place = none → (p.outcome.change ≠ none → fills = true) →
      Lawful Good fills fields p

/-- A law of changes: it says which changes of a value are good, and it is closed under the ways
in which changes are put together.  The formats among some names obey it. -/
structure ChangeLaw (val : Validator) (Named : String → Prop)
    (Good : Value → Option Value → Prop) : Prop where
  /-- To change nothing is good. -/
  unchanged : ∀ v, Good v none
  /-- So is what a format makes of a value. -/
  formatted : ∀ {name v change}, Named name → val.formats.check name v = .ok change →
    Good v change
  /-- The fields of an object are changed in their places. -/
  fields : ∀ {fields parts}, (∀ p ∈ parts, Part.Lawful Good val.fills fields p) →
    Good (.object fields) (Part.changeFields fields parts)
  /-- The items of an array are changed in their places. -/
  items : ∀ {items parts},
    (∀ p ∈ parts, ∃ w, items[p.place]? = some w ∧ Good w p.outcome.change) →
    Good (.array items) (Part.changeItems items parts)
  /-- The values of branches are merged. -/
  combined : ∀ {v} {outcomes : List Outcome}, (∀ o ∈ outcomes, Good v o.change) →
    ∀ violations, Good v (Applicator.combine v outcomes violations).change
  /-- The values of keywords are laid over each other. -/
  layered : ∀ {v earlier later}, Good v earlier → Good v later →
    Good v (Validator.layer v earlier later)

/-- Visits of the schemas in a value change values by a law. -/
def Visit.Obeys (visit : Visit) (Good : Value → Option Value → Prop) (value : Value) : Prop :=
  ∀ ⦃scope here v schema o⦄, value.Contains schema →
    (visit v schema).resultAt scope here = .ok o → Good v o.change

namespace Visit.Obeys

variable {visit : Visit} {Good : Value → Option Value → Prop} {value : Value}

lemma answer (h : visit.Obeys Good value) {scope : String} {here : List String} {a : Ask}
    {o : Outcome} (ha : value.Contains a.schema) (ho : visit.answer scope here a = .ok o) :
    Good a.value o.change := by
  obtain ⟨o', ho', rfl⟩ := Visit.answer_eq_ok_iff.1 ho
  exact (h ha ho' : Good a.value o'.change)

lemma mono {value' : Value} (h : visit.Obeys Good value) (hpart : value.Contains value') :
    visit.Obeys Good value' :=
  fun _ _ _ _ _ hschema ho => h (hpart.trans hschema) ho

end Visit.Obeys

/-! ## Keywords obey -/

namespace Applicator

open Walk

variable {val : Validator} {Named : String → Prop} {Good : Value → Option Value → Prop}
  {visit : Visit} {scope : String} {here : List String} {schema : Fields} {v value : Value}
  {c : Contribution}

lemma Filled.fills {name : String} {schema : Value} {o : Outcome}
    (h : Filled val visit scope here name schema o) (hchange : o.change ≠ none) :
    val.fills = true := by
  rw [← Bool.not_eq_false]
  intro hfills
  rw [h.eq_nothing hfills] at hchange
  exact hchange rfl

lemma properties_obeys (law : ChangeLaw val Named Good) (hvisit : visit.Steady)
    (hobeys : visit.Obeys Good value)
    (h : (properties val visit v value).resultAt scope here = .ok c) : Good v c.change := by
  cases (properties_ok_iff hvisit).1 h with
  | @object fields declared parts hparts =>
    refine law.fields fun p hp => ?_
    obtain ⟨⟨name, s⟩, hfield, hpart⟩ := exists_left_of_forall₂ hparts hp
    cases hlookup : fields.lookup name with
    | some w =>
      obtain ⟨rfl, hanswer⟩ := (property_present_iff hvisit hlookup).1 hpart
      have hs : (Value.object declared).Contains s := (Value.PartOf.field hfield).contains
      exact .present (Fields.mem_of_lookup hlookup) (hobeys.answer hs hanswer)
    | none =>
      obtain ⟨rfl, hfilled⟩ := (property_missing_iff hvisit hlookup).1 hpart
      exact .missing hlookup hfilled.fills
  | other => exact law.unchanged v

/-- Fields that are visited are changed by the law. -/
lemma FieldParts.lawful {schemaPath : List PathStep} {s : Value} {fields visited : Fields}
    {parts : List (Part String)} (hobeys : visit.Obeys Good s) (hsub : visited ⊆ fields)
    (h : FieldParts visit scope here schemaPath s visited parts) (fills : Bool) :
    ∀ p ∈ parts, p.Lawful Good fills fields := by
  intro p hp
  obtain ⟨⟨name, w⟩, hfield, hplace, hanswer⟩ := exists_left_of_forall₂ h hp
  refine .present ?_ (hobeys.answer (.refl s) hanswer)
  rw [hplace]
  exact hsub hfield

lemma patternProperties_obeys (law : ChangeLaw val Named Good) (hvisit : visit.Steady)
    (hobeys : visit.Obeys Good value)
    (h : (patternProperties visit v value).resultAt scope here = .ok c) : Good v c.change := by
  cases (patternProperties_ok_iff hvisit).1 h with
  | @object fields patterns groups hgroups =>
    refine law.fields fun p hp => ?_
    obtain ⟨parts, hmem, hp⟩ := List.mem_flatten.1 hp
    obtain ⟨⟨source, s⟩, hsource, hmatching⟩ := exists_left_of_forall₂ hgroups hmem
    obtain ⟨regex, -, hparts⟩ := (matchingFields_ok_iff hvisit).1 hmatching
    have hs : (Value.object patterns).Contains s := (Value.PartOf.field hsource).contains
    exact hparts.lawful (hobeys.mono hs) (List.filter_subset_self _) val.fills p hp
  | other => exact law.unchanged v

lemma additionalProperties_obeys (law : ChangeLaw val Named Good) (hvisit : visit.Steady)
    (hobeys : visit.Obeys Good value)
    (h : (additionalProperties visit schema v value).resultAt scope here = .ok c) :
    Good v c.change := by
  cases (additionalProperties_ok_iff hvisit).1 h with
  | visited hextras hparts =>
    refine law.fields (hparts.lawful hobeys ?_ val.fills)
    exact fun field hfield => ((extraFields_ok hextras).1 hfield).1
  | allowed | absent | forbidden | other => exact law.unchanged _

/-- Items that are visited are changed by the law. -/
lemma ItemParts.lawful {schemaPath : Nat → List PathStep} {items : List Value}
    {visited : List ((Value × Value) × Nat)} {parts : List (Part Nat)}
    (hobeys : visit.Obeys Good value)
    (hvisited : ∀ w s i, ((w, s), i) ∈ visited → items[i]? = some w ∧ value.Contains s)
    (h : ItemParts visit scope here schemaPath visited parts) :
    ∀ p ∈ parts, ∃ w, items[p.place]? = some w ∧ Good w p.outcome.change := by
  intro p hp
  obtain ⟨⟨⟨w, s⟩, i⟩, hmem, hplace, hanswer⟩ := exists_left_of_forall₂ h hp
  obtain ⟨hw, hs⟩ := hvisited w s i hmem
  exact ⟨w, hplace ▸ hw, hobeys.answer hs hanswer⟩

lemma items_obeys (law : ChangeLaw val Named Good) (hvisit : visit.Steady)
    (hobeys : visit.Obeys Good value)
    (h : (items visit v value).resultAt scope here = .ok c) : Good v c.change := by
  cases (items_ok_iff hvisit).1 h with
  | tuple hparts =>
    refine law.items (hparts.lawful hobeys fun w s i hmem => ?_)
    obtain ⟨hw, hs⟩ := mem_tuple_iff.1 hmem
    exact ⟨hw, (Value.partOf_of_getElem? hs).contains⟩
  | visited hparts =>
    refine law.items (hparts.lawful hobeys fun w s i hmem => ?_)
    obtain ⟨hw, rfl⟩ := mem_items_iff.1 hmem
    exact ⟨hw, .refl _⟩
  | other => exact law.unchanged v

lemma additionalItems_obeys (law : ChangeLaw val Named Good) (hvisit : visit.Steady)
    (hobeys : visit.Obeys Good value)
    (h : (additionalItems visit schema v value).resultAt scope here = .ok c) :
    Good v c.change := by
  cases (additionalItems_ok_iff hvisit).1 h with
  | visited hschemas hparts =>
    refine law.items (hparts.lawful hobeys fun w s i hmem => ?_)
    obtain ⟨-, hw, rfl⟩ := mem_later_iff.1 hmem
    exact ⟨hw, .refl _⟩
  | allowed | absent | forbidden | other => exact law.unchanged _

/-- Every branch changes the value by the law. -/
lemma branches_obey (hvisit : visit.Steady) (hobeys : visit.Obeys Good value) {k : Keyword}
    {outcomes : List (Nat × Outcome)}
    (h : (branches visit k v value).resultAt scope here = .ok outcomes) :
    ∀ o ∈ outcomes, Good v o.2.change := by
  obtain ⟨schemas, rfl, hall⟩ := (branches_ok_iff hvisit).1 h
  intro o ho
  obtain ⟨⟨s, i⟩, hmem, -, hanswer⟩ := exists_left_of_forall₂ hall ho
  have hs := Value.partOf_of_getElem? (List.mem_zipIdx_iff_getElem?.1 hmem)
  exact hobeys.answer hs.contains hanswer

/-- The branches that pass are merged by the law. -/
lemma combine_obeys (law : ChangeLaw val Named Good) {outcomes : List (Nat × Outcome)}
    (h : ∀ o ∈ outcomes, Good v o.2.change) (violations : List Violation) :
    Good v (combine v (outcomes.map Prod.snd) violations).change := by
  refine law.combined (fun o ho => ?_) violations
  obtain ⟨o', ho', rfl⟩ := List.mem_map.1 ho
  exact h o' ho'

lemma allOf_obeys (law : ChangeLaw val Named Good) (hvisit : visit.Steady)
    (hobeys : visit.Obeys Good value)
    (h : (allOf visit v value).resultAt scope here = .ok c) : Good v c.change := by
  obtain ⟨outcomes, houtcomes, rfl⟩ := (allOf_ok_iff hvisit).1 h
  split
  · exact law.unchanged v
  · exact combine_obeys law (branches_obey hvisit hobeys houtcomes) _

lemma anyOf_obeys (law : ChangeLaw val Named Good) (hvisit : visit.Steady)
    (hobeys : visit.Obeys Good value)
    (h : (anyOf visit v value).resultAt scope here = .ok c) : Good v c.change := by
  obtain ⟨outcomes, houtcomes, hc⟩ := (anyOf_ok_iff hvisit).1 h
  cases hc with
  | none => exact law.unchanged v
  | some =>
    refine combine_obeys law (fun o ho => ?_) _
    exact branches_obey hvisit hobeys houtcomes o (mem_passing.1 ho).1

lemma oneOf_obeys (law : ChangeLaw val Named Good) (hvisit : visit.Steady)
    (hobeys : visit.Obeys Good value)
    (h : (oneOf visit v value).resultAt scope here = .ok c) : Good v c.change := by
  obtain ⟨outcomes, houtcomes, hc⟩ := (oneOf_ok_iff hvisit).1 h
  cases hc with
  | none | several => exact law.unchanged v
  | @one i o hone =>
    have ho : (i, o) ∈ passing outcomes := by simp [hone]
    exact branches_obey hvisit hobeys houtcomes _ (mem_passing.1 ho).1

lemma not_unchanged (hvisit : visit.Steady)
    (h : (not visit v value).resultAt scope here = .ok c) : c.change = none := by
  obtain ⟨o, -, hc⟩ := (not_ok_iff hvisit).1 h
  cases hc <;> rfl

lemma constraint_unchanged {messages : Constraint.Messages}
    (hmessages : Constraint.Inherent messages)
    (h : (constraint messages).resultAt scope here = .ok c) : c.change = none := by
  obtain ⟨ms, -, rfl⟩ := constraint_ok hmessages h
  rfl

lemma pattern_unchanged (h : (pattern v value).resultAt scope here = .ok c) :
    c.change = none := by
  obtain ⟨source, -, ⟨s, regex, -, -, ⟨-, rfl⟩ | ⟨-, message, rfl⟩⟩ | ⟨-, rfl⟩⟩ := pattern_ok h
    <;> rfl

lemma format_obeys (law : ChangeLaw val Named Good)
    (hnamed : ∀ name, value = .string name → Named name)
    (h : (format val v value).resultAt scope here = .ok c) : Good v c.change := by
  obtain ⟨name, rfl, ⟨change, hcheck, rfl⟩ | ⟨fault, message, -, rfl⟩⟩ := format_ok h
  · exact law.formatted (hnamed name rfl) hcheck
  · exact law.unchanged v

lemma ref_obeys {follow : Follow} (hfollow : follow.Steady)
    (hobeys : ∀ reference o, (follow v reference).resultAt scope here = .ok o → Good v o.change)
    (h : (ref follow v value).resultAt scope here = .ok c) : Good v c.change := by
  obtain ⟨reference, o, -, ho, rfl⟩ := (ref_ok_iff hfollow).1 h
  exact hobeys reference o ho

end Applicator

/-! ## Schemas obey -/

/-- An object among the values in a schema and in the documents names a format. -/
def Store.NamesFormat (store : Store) (schema : Value) (name : String) : Prop :=
  ∃ fields, store.Knows schema (.object fields) ∧
    fields.lookup Keyword.format.name = some (.string name)

section

variable {val : Validator} {Named : String → Prop} {Good : Value → Option Value → Prop}
  {follow : Follow} {visit : Visit} {scope : String} {here : List String} {v value : Value}

lemma Keyword.contribution_obeys (law : ChangeLaw val Named Good)
    (hsteadies : Steadies follow visit) (hobeys : visit.Obeys Good value)
    (hfollow : ∀ reference o, (follow v reference).resultAt scope here = .ok o → Good v o.change)
    {k : Keyword} (hnamed : k = .format → ∀ name, value = .string name → Named name)
    {schema : Fields} {c : Contribution}
    (h : (k.contribution val follow visit schema v value).resultAt scope here = .ok c) :
    Good v c.change := by
  have hplain : ∀ {messages : Constraint.Messages}, Constraint.Inherent messages →
      (Applicator.constraint messages).resultAt scope here = .ok c → Good v c.change := by
    intro messages hmessages hc
    rw [Applicator.constraint_unchanged hmessages hc]
    exact law.unchanged v
  cases k with
  | ref => exact Applicator.ref_obeys hsteadies.follow hfollow h
  | type => exact hplain (.type v value) h
  | enum => exact hplain (.enum v value) h
  | minLength => exact hplain (.atLeast _ _ value _) h
  | maxLength => exact hplain (.atMost _ _ value _) h
  | pattern =>
    rw [Applicator.pattern_unchanged h]
    exact law.unchanged v
  | minimum => exact hplain (.minimum schema v value) h
  | maximum => exact hplain (.maximum schema v value) h
  | multipleOf => exact hplain (.multipleOf v value) h
  | properties => exact Applicator.properties_obeys law hsteadies.visit hobeys h
  | patternProperties => exact Applicator.patternProperties_obeys law hsteadies.visit hobeys h
  | additionalProperties =>
    exact Applicator.additionalProperties_obeys law hsteadies.visit hobeys h
  | required => exact hplain (.required v value) h
  | minProperties => exact hplain (.atLeast _ _ value _) h
  | maxProperties => exact hplain (.atMost _ _ value _) h
  | dependencies => simp [contribution] at h
  | items => exact Applicator.items_obeys law hsteadies.visit hobeys h
  | additionalItems => exact Applicator.additionalItems_obeys law hsteadies.visit hobeys h
  | minItems => exact hplain (.atLeast _ _ value _) h
  | maxItems => exact hplain (.atMost _ _ value _) h
  | uniqueItems => exact hplain (.uniqueItems v value) h
  | allOf => exact Applicator.allOf_obeys law hsteadies.visit hobeys h
  | anyOf => exact Applicator.anyOf_obeys law hsteadies.visit hobeys h
  | oneOf => exact Applicator.oneOf_obeys law hsteadies.visit hobeys h
  | not =>
    rw [Applicator.not_unchanged hsteadies.visit h]
    exact law.unchanged v
  | format => exact Applicator.format_obeys law (hnamed rfl) h

/-- What keywords have changed is laid over each other by the law. -/
lemma ChangeLaw.foldl_layer (law : ChangeLaw val Named Good) {changes : List (Option Value)}
    (h : ∀ change ∈ changes, Good v change) {earlier : Option Value} (hearlier : Good v earlier) :
    Good v (changes.foldl (Validator.layer v) earlier) := by
  induction changes generalizing earlier with
  | nil => exact hearlier
  | cons change changes ih =>
    exact ih (fun c hc => h c (by simp [hc])) (law.layered hearlier (h change (by simp)))

namespace Validator

/-- A schema obeys if its keywords do. -/
lemma visitFields_obeys (law : ChangeLaw val Named Good) (hsteadies : Steadies follow visit)
    {fields : Fields}
    (hkeyword : ∀ (k : Keyword) value c, fields.lookup k.name = some value →
      (k.contribution val follow visit fields v value).resultAt scope here = .ok c →
        Good v c.change)
    {o : Outcome} (h : (val.visitFields follow visit v fields).resultAt scope here = .ok o) :
    Good v o.change := by
  have hvisit : ∀ (k : Keyword) value o, fields.lookup k.name = some value →
      (val.visitKeyword follow visit v fields k value).resultAt scope here = .ok o →
        Good v o.change := by
    intro k value o hlookup ho
    obtain ⟨c, hc, rfl⟩ := (visitKeyword_ok_iff hsteadies.follow hsteadies.visit).1 ho
    exact hkeyword k value c hlookup hc
  cases visitFields_ok_iff.1 h with
  | ref href ho => exact hvisit _ _ o href ho
  | null _ _ _ heq =>
    rw [heq]
    exact law.unchanged v
  | keywords _ _ ho =>
    obtain ⟨outcomes, hall, rfl⟩ := (visitKeywords_ok_iff hsteadies.follow hsteadies.visit).1 ho
    refine law.foldl_layer (fun change hchange => ?_) (law.unchanged v)
    obtain ⟨⟨k, o⟩, hmem, rfl⟩ := List.mem_map.1 hchange
    obtain ⟨⟨k', value⟩, hkeywords, -, ho⟩ := exists_left_of_forall₂ hall hmem
    exact hvisit k' value o (Keyword.mem_keywordsOf.1 hkeywords) ho

/-- A keyword obeys if the visits below it do. -/
lemma contribution_obeys {schema : Value} (law : ChangeLaw val (val.store.NamesFormat schema) Good)
    {n : Nat} (hvisit : ∀ {scope here v s o}, val.store.Knows schema s →
      (val.visit n v s).resultAt scope here = .ok o → Good v o.change)
    {fields : Fields} (hknows : val.store.Knows schema (.object fields)) {k : Keyword}
    (hlookup : fields.lookup k.name = some value) {c : Contribution}
    (h : (k.contribution val (Applicator.follow val.store (val.visit n)) (val.visit n) fields v
      value).resultAt scope here = .ok c) : Good v c.change := by
  have hsteadies := val.visit_steadies n
  have hvalue := hknows.contains (Value.partOf_of_lookup hlookup).contains
  refine Keyword.contribution_obeys law hsteadies
    (fun _ _ _ _ _ hs ho => hvisit (hvalue.contains hs) ho) (fun reference o ho => ?_) ?_ h
  · -- What a reference leads to is known as well.
    obtain ⟨target, hfound, -, ho⟩ := (Applicator.follow_ok_iff hsteadies.visit).1 ho
    exact hvisit (Store.knows_of_resolveUrl hfound) ho
  · rintro rfl name rfl
    exact ⟨fields, hknows, hlookup⟩

/-- **Visits obey laws of changes**: what a law says about the formats that are named in the
schema and in the documents, and keeps when changes are put together, holds of every visit. -/
theorem visit_obeys {schema s : Value} (law : ChangeLaw val (val.store.NamesFormat schema) Good)
    (hknows : val.store.Knows schema s) {n : Nat} {o : Outcome}
    (h : (val.visit n v s).resultAt scope here = .ok o) : Good v o.change := by
  induction n generalizing v s scope here o with
  | zero => exact absurd h visit_zero_ne_ok
  | succ n ih =>
    have hsteadies := val.visit_steadies n
    obtain ⟨fields, rfl, hfields⟩ := (visitNode_ok_iff hsteadies.follow hsteadies.visit).1 h
    exact visitFields_obeys law hsteadies
      (fun k value c hlookup hc => contribution_obeys law (fun hs ho => ih hs ho) hknows hlookup hc)
      hfields

end Validator

end

/-! ## Refinement is a law -/

section

open Value

variable {reads : String → Value → Prop} {grows : Prop}

/-- Parts that fit an object are put into their places. -/
lemma Part.changeFields_refines {fields : Fields} {parts : List (Part String)} {w : Value}
    (h : ∀ p ∈ parts, ∀ u, p.outcome.change = some u → Fits reads grows fields p.place u)
    (hw : changeFields fields parts = some w) : Refines reads grows (.object fields) w := by
  have hfold : ∀ changed, Refines reads grows (.object fields) (.object changed) →
      Refines reads grows (.object fields) (.object (parts.foldl (fun fields p =>
        p.outcome.change.elim fields fun v => Fields.insert p.place v fields) changed)) := by
    clear hw
    induction parts with
    | nil => exact fun _ hchanged => hchanged
    | cons p parts ih =>
      intro changed hchanged
      refine ih (fun p hp => h p (by simp [hp])) _ ?_
      dsimp only
      cases hchange : p.outcome.change with
      | none => exact hchanged
      | some u => exact hchanged.insert (h p (by simp) u hchange)
  rw [changeFields] at hw
  split at hw
  · simp at hw
  · obtain rfl := Option.some.inj hw
    exact hfold fields (refines_refl _)

/-- Parts that refine the items of an array are put into their places. -/
lemma Part.changeItems_refines {items : List Value} {parts : List (Part Nat)} {w : Value}
    (h : ∀ p ∈ parts, ∀ u, p.outcome.change = some u →
      ∃ v, items[p.place]? = some v ∧ Refines reads grows v u)
    (hw : changeItems items parts = some w) : Refines reads grows (.array items) w := by
  have hfold : ∀ changed, Refines reads grows (.array items) (.array changed) →
      Refines reads grows (.array items) (.array (parts.foldl (fun items p =>
        p.outcome.change.elim items fun v => items.set p.place v) changed)) := by
    clear hw
    induction parts with
    | nil => exact fun _ hchanged => hchanged
    | cons p parts ih =>
      intro changed hchanged
      refine ih (fun p hp => h p (by simp [hp])) _ ?_
      dsimp only
      cases hchange : p.outcome.change with
      | none => exact hchanged
      | some u =>
        obtain ⟨v, hv, hu⟩ := h p (by simp) u hchange
        exact hchanged.set hv hu
  rw [changeItems] at hw
  split at hw
  · simp at hw
  · obtain rfl := Option.some.inj hw
    exact hfold items (refines_refl _)

/-- What a text may be read as: the typed leaf that one of some formats gives for it. -/
def Formats.Reads (formats : Formats) (Named : String → Prop) (s : String) (w : Value) : Prop :=
  w.isTyped ∧ ∃ name, Named name ∧ formats.check name (.string s) = .ok (some w)

lemma Formats.readsLeaves (formats : Formats) (Named : String → Prop) :
    ReadsLeaves (formats.Reads Named) :=
  fun _ _ hread => hread.1

/-- A change refines a value in which every object has each of its keys once. -/
def RefinesByChange (reads : String → Value → Prop) (grows : Prop) (v : Value)
    (change : Option Value) : Prop :=
  v.hasUniqueKeys → ∀ w, change = some w → Refines reads grows v w

/-- **Refinement is a law of changes**, as long as formats replace nothing but texts. -/
theorem refinement_law {val : Validator} (hformats : val.formats.ReadTexts)
    (Named : String → Prop) :
    ChangeLaw val Named (RefinesByChange (val.formats.Reads Named) (val.fills = true)) where
  unchanged v _ w hw := by simp at hw
  formatted := by
    rintro name v change hnamed hcheck - w rfl
    obtain ⟨s, rfl, htyped⟩ := hformats name v w hcheck
    exact Or.inr ⟨htyped, name, hnamed, hcheck⟩
  fields := by
    intro fields parts hparts hkeys w hw
    refine Part.changeFields_refines (fun p hp u hu => ?_) hw
    cases hparts p hp with
    | @present v hmem hgood =>
      -- The keys are unique, so the field is the one that is found under its key.
      have hlookup := Fields.lookup_of_mem (nodup_of_hasUniqueKeys hkeys) hmem
      have hrefines := hgood (hasUniqueKeys_of_partOf hkeys (.field hmem)) u hu
      refine ⟨fun v' hv' => ?_, fun hnone => by simp [hlookup] at hnone⟩
      obtain rfl := Option.some.inj (hlookup.symm.trans hv')
      exact hrefines
    | missing hnone hfills =>
      exact ⟨fun v hv => by simp [hnone] at hv, fun _ => hfills (by simp [hu])⟩
  items := by
    intro items parts hparts hkeys w hw
    refine Part.changeItems_refines (fun p hp u hu => ?_) hw
    obtain ⟨v, hv, hgood⟩ := hparts p hp
    exact ⟨v, hv, hgood (hasUniqueKeys_of_partOf hkeys (partOf_of_getElem? hv)) u hu⟩
  combined := by
    intro v outcomes hgood violations hkeys w hw
    rw [Applicator.combine] at hw
    dsimp only at hw
    split at hw
    · simp at hw
    · refine mergeAll_refines (val.formats.readsLeaves Named) hkeys (fun u hu => ?_) hw
      obtain ⟨o, ho, rfl⟩ := List.mem_map.1 hu
      cases hchange : o.change with
      | none => exact refines_refl v
      | some u => exact hgood o ho hkeys u hchange
  layered := by
    intro v earlier later hearlier hlater hkeys w hw
    cases earlier with
    | none => exact hlater hkeys w (by simpa [Validator.layer] using hw)
    | some e =>
      cases later with
      | none => exact hearlier hkeys w (by simpa [Validator.layer] using hw)
      | some l =>
        obtain rfl := Option.some.inj hw
        exact overlays_of_hasUniqueKeys hkeys e l (hearlier hkeys e rfl) (hlater hkeys l rfl)

end

namespace Validator

/-- What validation gives back refines what it was given. -/
lemma validate_refines {val : Validator} (hformats : val.formats.ReadTexts) {v schema : Value}
    (hkeys : v.hasUniqueKeys) {out : Validated} (h : val.validate v schema = .ok out) :
    v.Refines (val.formats.Reads (val.store.NamesFormat schema)) (val.fills = true) out.value := by
  obtain ⟨o, ho, -, rfl⟩ := validate_eq_ok_iff.1 h
  have hgood := visit_obeys (refinement_law hformats _) (Or.inl (.refl schema)) ho hkeys
  cases hchange : o.change with
  | none => exact Value.refines_refl v
  | some w => exact hgood w hchange

/-- **Validation is conservative**: with the formats of a dialect, a valid value comes back with
nothing changed but texts, each of which may have become the typed leaf that a format named in
the schema or in a document reads in it, and with nothing added but fields after those that
were there.  So wherever a path leads in the value, it leads to the same or to what refines it;
null stays null; and if missing fields are not filled, then every object keeps its keys. -/
theorem validate_conservative (store : Store) (dialect : Dialect) (fills : Bool)
    (v schema : Value) (hkeys : v.hasUniqueKeys) {out : Validated}
    (h : (Validator.mk store dialect.formats fills).validate v schema = .ok out) :
    v.Refines (dialect.formats.Reads (store.NamesFormat schema)) (fills = true) out.value ∧
      (∀ path u, v.Leads path u → ∃ u', out.value.Leads path u' ∧
        u.Refines (dialect.formats.Reads (store.NamesFormat schema)) (fills = true) u') ∧
      (∀ path, v.Leads path .null → out.value.Leads path .null) ∧
      (fills = false → ∀ path fields, v.Leads path (.object fields) →
        ∃ fields', out.value.Leads path (.object fields') ∧
          Fields.keys fields' = Fields.keys fields) := by
  have hrefines := validate_refines dialect.readTexts_formats hkeys h
  refine ⟨hrefines, fun path u hpath => hrefines.leads hpath, fun path hpath => ?_, ?_⟩
  · obtain ⟨u', hu', rfl⟩ := hrefines.leads hpath
    exact hu'
  · intro hfills path fields hpath
    obtain ⟨u', hu', hobject⟩ := hrefines.leads hpath
    obtain ⟨kept, added, rfl, hkept, -, hgrows⟩ := Value.refines_object_iff.1 hobject
    obtain rfl : added = [] := by
      by_contra hne
      simpa [hfills] using hgrows hne
    rw [List.append_nil] at hu'
    exact ⟨kept, hu', Value.keys_of_forall₂ hkept⟩

end Validator

namespace Filling

/-- A schema that reads a date and declares two defaults. -/
def schema : Value := .object [("properties", .object [
  ("day", .object [("format", .string "date")]),
  ("note", .object [("default", .string "none")]),
  ("size", .object [("default", .integer 1)])])]

/-- A value with a date and an explicit null. -/
def value : Value := .object [("note", .null), ("day", .string "2017-07-26")]

end Filling

/-- The date is read, the null stays, and the missing field is filled. -/
theorem filling_is_conservative :
    ∃ out date, (Validator.mk (.ofRoot "" Filling.schema) Dialect.oas3.formats true).validate
        Filling.value Filling.schema = .ok out ∧
      out.value = .object [("note", .null), ("day", .date date), ("size", .integer 1)] ∧
      out.value.Leads [.key "note"] .null := by
  have hall := Validator.validate_conservative (.ofRoot "" Filling.schema) .oas3 true
    Filling.value Filling.schema rfl rfl
  refine ⟨_, _, rfl, rfl, hall.2.2.1 _ ?_⟩
  exact .key List.mem_cons_self (.here _)

end ApiContract
