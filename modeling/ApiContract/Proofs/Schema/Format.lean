/-
# What formats make of values

A format of a dialect leaves a value as it is, or it reads a text and gives the typed leaf that
the text stands for.
-/
import ApiContract.Schema.Format
import ApiContract.Proofs.Value.Part

namespace ApiContract

/-- A check that replaces nothing but texts, and these by typed leaves. -/
def FormatCheck.ReadsTexts (check : FormatCheck) : Prop :=
  ∀ v w, check v = .ok (some w) → ∃ s, v = .string s ∧ w.isTyped

namespace Format

open FormatCheck

lemma readsTexts_reading {fault : FormatFault} {read : List Char → Option Value}
    (h : ∀ cs w, read cs = some w → w.isTyped) : ReadsTexts (reading fault read) := by
  intro v w hcheck
  unfold reading onStrings at hcheck
  split at hcheck
  · rename_i s
    dsimp only at hcheck
    split at hcheck
    · rename_i w' hread
      obtain rfl := Option.some.inj (Except.ok.inj hcheck)
      exact ⟨s, rfl, h s.toList w' hread⟩
    · simp at hcheck
  · simp at hcheck

lemma readsTexts_testing (fault : FormatFault) (test : List Char → Bool) :
    ReadsTexts (testing fault test) := by
  intro v w hcheck
  unfold testing onStrings at hcheck
  split at hcheck
  · dsimp only at hcheck
    split at hcheck <;> simp at hcheck
  · simp at hcheck

lemma readsTexts_uri : ReadsTexts uri := by
  unfold uri
  exact readsTexts_testing _ _

lemma readsTexts_uriReference : ReadsTexts uriReference := by
  unfold uriReference
  exact readsTexts_testing _ _

lemma readsTexts_within (least greatest : Int) (name : String) :
    ReadsTexts (within least greatest name) := by
  intro v w hcheck
  unfold within at hcheck
  split at hcheck
  · split at hcheck <;> simp at hcheck
  · simp at hcheck

/-- What is read and then made a typed leaf is typed. -/
lemma isTyped_of_map {α : Type} {read : List Char → Option α} {leaf : α → Value}
    (hleaf : ∀ a, (leaf a).isTyped) (cs : List Char) (w : Value)
    (h : (read cs).map leaf = some w) : w.isTyped := by
  obtain ⟨a, -, rfl⟩ := Option.map_eq_some_iff.1 h
  exact hleaf a

end Format

/-- Formats all of which replace nothing but texts, and these by typed leaves. -/
def Formats.ReadTexts (formats : Formats) : Prop :=
  ∀ name, FormatCheck.ReadsTexts (formats.check name)

/-- It is enough to look at the checks one by one. -/
lemma Formats.readTexts_of_checks {formats : Formats}
    (h : ∀ entry ∈ formats.checks, entry.2.ReadsTexts) : formats.ReadTexts := by
  intro name v w hcheck
  unfold check at hcheck
  split at hcheck
  · rename_i check hlookup
    exact h _ (Fields.mem_of_lookup hlookup) v w hcheck
  · simp at hcheck

/-- No dialect knows a format that the dialect of interface descriptions does not know. -/
lemma Dialect.checks_subset (dialect : Dialect) : dialect.formats.checks ⊆ Formats.oas3.checks := by
  cases dialect with
  | oas3 => exact List.Subset.refl _
  | draft5 => exact List.subset_append_left _ _
  | draft4 =>
    exact List.Subset.trans (List.subset_append_left _ _)
      (List.subset_append_left Formats.draft5.checks _)

/-- **Dialects read texts**: the formats of a dialect replace nothing but texts, and these by
typed leaves. -/
theorem Dialect.readTexts_formats (dialect : Dialect) : dialect.formats.ReadTexts := by
  have hchecks : ∀ entry ∈ Formats.oas3.checks, entry.2.ReadsTexts := by
    intro entry hentry
    simp only [Formats.oas3, Formats.draft5, Formats.draft4, List.mem_append, List.mem_cons,
      List.not_mem_nil, or_false] at hentry
    rcases hentry with ((rfl | rfl | rfl | rfl | rfl | rfl) | rfl | rfl) | rfl | rfl | rfl | rfl
    · exact Format.readsTexts_reading (Format.isTyped_of_map fun _ => rfl)
    · exact Format.readsTexts_testing _ _
    · exact Format.readsTexts_testing _ _
    · exact Format.readsTexts_reading (Format.isTyped_of_map fun _ => rfl)
    · exact Format.readsTexts_reading (Format.isTyped_of_map fun _ => rfl)
    · exact Format.readsTexts_uri
    · exact Format.readsTexts_uriReference
    · exact Format.readsTexts_uriReference
    · exact Format.readsTexts_within _ _ _
    · exact Format.readsTexts_within _ _ _
    · exact Format.readsTexts_reading (Format.isTyped_of_map fun _ => rfl)
    · exact Format.readsTexts_reading (Format.isTyped_of_map fun _ => rfl)
  exact Formats.readTexts_of_checks fun entry hentry =>
    hchecks entry (dialect.checks_subset hentry)

end ApiContract
