/-
# Typed leaves and their texts

A format may read one leaf in many texts: a year may have a sign, an hour may have an offset, and
groups of an address may be left out.  The leaf is sent as one of these texts, and the format reads
the same leaf in it.
-/
import ApiContract.Proofs.Leaf.Address
import ApiContract.Proofs.Leaf.Base64
import ApiContract.Proofs.Leaf.Timestamp
import ApiContract.Proofs.Schema.Format
import ApiContract.Proofs.Value.Path
import ApiContract.Proofs.Value.ReadBack

namespace ApiContract

/-! ## Texts of leaves -/

/-- A leaf is sent as a text: the text stands for it in documents, and what is received where the
leaf has been sent is the text. -/
structure Value.SentAs (leaf : Value) (text : String) : Prop where
  /-- The text stands for the leaf. -/
  leafText : leaf.leafText? = some text
  /-- In the shapes of JSON the leaf is the text. -/
  plain : leaf.plain = .string text
  /-- The leaf is written as the text is. -/
  serialized : leaf.serialized = (string text).serialized
  /-- What has been written is read as the text. -/
  received : Json.ofText leaf.serialized = .ok (.string text)

lemma Value.sentAs_of_leafText? {leaf : Value} {text : String} (h : leaf.leafText? = some text) :
    leaf.SentAs text := by
  have hplain : leaf.plain = .string text := by
    cases leaf with
    | date | dateTime | bytes | ip => exact congrArg string (Option.some.inj h)
    | _ => cases h
  have hserialized : leaf.serialized = (string text).serialized := by
    rw [Value.serialized, ← written_plain, hplain, Value.serialized]
  exact ⟨h, hplain, hserialized,
    hserialized ▸ Json.ofText_serialized (.string text) (Nat.zero_le _)⟩

/-! ## Checks -/

/-- A check that reads back what it has read: a leaf that it makes of some text it also makes of
the text that stands for the leaf. -/
def FormatCheck.ReadsBack (check : FormatCheck) : Prop :=
  ∀ s leaf, check (.string s) = .ok (some leaf) →
    ∃ text, leaf.leafText? = some text ∧ check (.string text) = .ok (some leaf)

namespace Format

open FormatCheck

/-- Reading reads back if leaves are read from the texts they are written as. -/
lemma readsBack_reading {α : Type} (fault : FormatFault) {read : List Char → Option α}
    {leaf : α → Value} {text : α → List Char}
    (htext : ∀ a, (leaf a).leafText? = some (String.ofList (text a)))
    (hread : ∀ cs a, read cs = some a → read (text a) = some a) :
    ReadsBack (reading fault fun cs => (read cs).map leaf) := by
  intro s w hcheck
  simp only [reading, onStrings] at hcheck
  split at hcheck
  · rename_i w' hw
    obtain rfl := Option.some.inj (Except.ok.inj hcheck)
    obtain ⟨a, ha, rfl⟩ := Option.map_eq_some_iff.1 hw
    refine ⟨String.ofList (text a), htext a, ?_⟩
    simp only [reading, onStrings, String.toList_ofList, hread _ a ha, Option.map_some]
  · cases hcheck

/-- A check that replaces nothing has nothing to read back. -/
lemma readsBack_testing (fault : FormatFault) (test : List Char → Bool) :
    ReadsBack (testing fault test) := by
  intro s leaf hcheck
  simp only [testing, onStrings] at hcheck
  split at hcheck <;> cases hcheck

lemma readsBack_within (least greatest : Int) (name : String) :
    ReadsBack (within least greatest name) := by
  intro s leaf hcheck
  cases hcheck

lemma readsBack_date : ReadsBack date :=
  readsBack_reading _ (fun _ => rfl) fun _ d _ => d.read?_text

lemma readsBack_dateTime : ReadsBack dateTime := by
  refine readsBack_reading _ (fun _ => rfl) fun _ t ht => ?_
  obtain ⟨hleast, hmost⟩ := Timestamp.year_of_read? ht
  exact t.read?_text hleast hmost

lemma readsBack_byte : ReadsBack byte :=
  readsBack_reading _ (fun _ => rfl) fun _ bs _ => Base64.decode?_encode bs

lemma readsBack_ipv4 : ReadsBack ipv4 := by
  refine readsBack_reading _ (fun _ => rfl) fun _ a ha => ?_
  obtain ⟨⟨a, b, c, d⟩, -, rfl⟩ := Option.map_eq_some_iff.1 ha
  exact Address.readV4?_text a b c d

lemma readsBack_ipv6 : ReadsBack ipv6 := by
  refine readsBack_reading _ (fun _ => rfl) fun _ a ha => ?_
  obtain ⟨g₀, g₁, g₂, g₃, g₄, g₅, g₆, g₇, rfl⟩ := Address.exists_of_readV6? ha
  exact Address.readV6?_text g₀ g₁ g₂ g₃ g₄ g₅ g₆ g₇

lemma readsBack_uri : ReadsBack uri := by
  unfold uri
  exact readsBack_testing _ _

lemma readsBack_uriReference : ReadsBack uriReference := by
  unfold uriReference
  exact readsBack_testing _ _

end Format

/-! ## Dialects -/

/-- Every format of a dialect reads back what it has read. -/
lemma Dialect.readsBack_of_mem (dialect : Dialect) :
    ∀ entry ∈ dialect.formats.checks, entry.2.ReadsBack := by
  have hchecks : ∀ entry ∈ Formats.oas3.checks, entry.2.ReadsBack := by
    simp only [Formats.oas3, Formats.draft5, Formats.draft4, List.forall_mem_append,
      List.forall_mem_cons, List.not_mem_nil, false_imp_iff, implies_true, and_true]
    exact ⟨⟨⟨Format.readsBack_dateTime, Format.readsBack_testing _ _,
      Format.readsBack_testing _ _, Format.readsBack_ipv4, Format.readsBack_ipv6,
      Format.readsBack_uri⟩, Format.readsBack_uriReference, Format.readsBack_uriReference⟩,
      Format.readsBack_within _ _ _, Format.readsBack_within _ _ _, Format.readsBack_byte,
      Format.readsBack_date⟩
  exact fun entry hentry => hchecks entry (dialect.checks_subset hentry)

/-- Formats say nothing about arrays and objects. -/
lemma Dialect.check_of_isContainer (dialect : Dialect) (name : String) {v : Value}
    (h : v.isContainer) : dialect.formats.check name v = .ok none := by
  have hchecks : ∀ entry ∈ Formats.oas3.checks, entry.2 v = .ok none := by
    simp only [Formats.oas3, Formats.draft5, Formats.draft4, List.forall_mem_append,
      List.forall_mem_cons, List.not_mem_nil, false_imp_iff, implies_true, and_true]
    cases v with
    | array | object => exact ⟨⟨⟨rfl, rfl, rfl, rfl, rfl, rfl⟩, rfl, rfl⟩, rfl, rfl, rfl, rfl⟩
    | _ => cases h
  unfold Formats.check
  split
  · rename_i check hlookup
    exact hchecks _ (dialect.checks_subset (Fields.mem_of_lookup hlookup))
  · rfl

/-- **Leaves are read back from what they are sent as.**  If a format of a dialect makes a typed
leaf of a text, then the leaf is sent as a text of which the format makes the leaf again. -/
theorem Dialect.check_sent (dialect : Dialect) {name s : String} {leaf : Value}
    (h : dialect.formats.check name (.string s) = .ok (some leaf)) :
    ∃ text, leaf.SentAs text ∧
      dialect.formats.check name (.string text) = .ok (some leaf) ∧ leaf == leaf := by
  unfold Formats.check at h ⊢
  cases hlookup : dialect.formats.checks.lookup name with
  | none => simp [hlookup] at h
  | some check =>
    simp only [hlookup] at h ⊢
    obtain ⟨text, htext, hcheck⟩ :=
      dialect.readsBack_of_mem _ (Fields.mem_of_lookup hlookup) s leaf h
    refine ⟨text, Value.sentAs_of_leafText? htext, hcheck, ?_⟩
    cases leaf with
    | date | dateTime | bytes | ip => exact Value.same_self_of_leaf rfl (by simp)
    | _ => cases htext

end ApiContract
