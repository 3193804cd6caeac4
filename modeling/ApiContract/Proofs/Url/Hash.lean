/-
# The hash in URLs

A hash never stands in the parts of a URL before its fragment: whatever is read into a
scheme, an authority, a path or a query ends before a hash, refuses it or encodes it.  So the
fragment of a URL that has been read is what follows the first hash of the text, and the text
of the URL has its first hash there.
-/
import ApiContract.Proofs.Text.Percent
import ApiContract.Url.Reader
import Mathlib.Data.List.TakeWhile
import Mathlib.Tactic.Common

namespace ApiContract

/-! ## Texts without a hash -/

namespace Text

variable {cs ds : List Char}

/-- The text after the first hash. -/
def afterHash (cs : List Char) : Option (List Char) :=
  (cut '#' cs).map Prod.snd

lemma afterHash_cons (c : Char) (cs : List Char) :
    afterHash (c :: cs) = if c = '#' then some cs else afterHash cs := by
  unfold afterHash
  rw [cut]
  split
  · rfl
  · cases cut '#' cs <;> rfl

lemma afterHash_append (h : '#' ∉ cs) (ds : List Char) :
    afterHash (cs ++ ds) = afterHash ds := by
  induction cs with
  | nil => rfl
  | cons c cs ih =>
    rw [List.mem_cons, not_or] at h
    rw [List.cons_append, afterHash_cons, if_neg (Ne.symm h.1), ih h.2]

lemma afterHash_drop {n : Nat} (h : '#' ∉ cs.take n) : afterHash (cs.drop n) = afterHash cs := by
  conv_rhs => rw [← List.take_append_drop n cs, afterHash_append h]

lemma not_mem_takeWhile {p : Char → Bool} (h : p '#' = false) : '#' ∉ cs.takeWhile p := by
  intro hmem
  have hp := List.mem_takeWhile_imp hmem
  rw [h] at hp
  simp at hp

lemma afterHash_dropWhile {p : Char → Bool} (h : p '#' = false) :
    afterHash (cs.dropWhile p) = afterHash cs := by
  conv_rhs =>
    rw [← List.takeWhile_append_dropWhile (p := p) (l := cs),
      afterHash_append (not_mem_takeWhile h)]

lemma not_mem_of_split {sep : Char} {piece : List Char} (h : '#' ∉ cs)
    (hpiece : piece ∈ split sep cs) : '#' ∉ piece := by
  induction cs generalizing piece with
  | nil =>
    obtain rfl : piece = [] := by simpa [split] using hpiece
    simp
  | cons c cs ih =>
    rw [List.mem_cons, not_or] at h
    rw [split] at hpiece
    split at hpiece
    · rcases List.mem_cons.1 hpiece with rfl | hpiece
      · simp
      · exact ih h.2 hpiece
    · split at hpiece
      · obtain rfl : piece = [c] := by simpa using hpiece
        simpa using h.1
      · rename_i first rest hsplit
        rcases List.mem_cons.1 hpiece with rfl | hpiece
        · rw [List.mem_cons, not_or]
          exact ⟨h.1, ih h.2 (by simp [hsplit])⟩
        · exact ih h.2 (by simp [hsplit, hpiece])

lemma exists_of_mem_mapM {α β : Type} {f : α → Option β} {l : List α} {bs : List β}
    (h : l.mapM f = some bs) {b : β} (hb : b ∈ bs) : ∃ a ∈ l, f a = some b := by
  induction l generalizing bs with
  | nil =>
    obtain rfl : bs = [] := by simpa using h.symm
    simp at hb
  | cons a l ih =>
    rw [List.mapM_cons] at h
    obtain ⟨b', hb', h⟩ := Option.bind_eq_some_iff.1 h
    obtain ⟨bs', hbs', h⟩ := Option.bind_eq_some_iff.1 h
    obtain rfl := Option.some.inj h
    rcases List.mem_cons.1 hb with rfl | hb
    · exact ⟨a, by simp, hb'⟩
    · obtain ⟨a', ha', hfa⟩ := ih hbs' hb
      exact ⟨a', by simp [ha'], hfa⟩

/-! ### Digits -/

lemma ofNat_ne_hash {n : Nat} (h : n ≠ 35) : Char.ofNat n ≠ '#' := by
  intro hn
  by_cases hvalid : n.isValidChar
  · have htoNat : (Char.ofNat n).toNat = n := by
      rw [Char.ofNat, dif_pos hvalid]
      rfl
    rw [hn] at htoNat
    exact h htoNat.symm
  · rw [Char.ofNat, dif_neg hvalid] at hn
    exact absurd hn (by decide)

lemma digitChar_ne_hash (n : Nat) : Nat.digitChar n ≠ '#' := by
  by_cases hn : n < 16
  · have hall : ∀ m < 16, Nat.digitChar m ≠ '#' := by decide
    exact hall n hn
  · rw [Nat.digitChar_eq_star.2 (by omega)]
    decide

lemma not_mem_toDigits (base n : Nat) : '#' ∉ Nat.toDigits base n := by
  have hcore : ∀ fuel n ds, '#' ∉ ds → '#' ∉ Nat.toDigitsCore base fuel n ds := by
    intro fuel
    induction fuel with
    | zero => exact fun n ds h => h
    | succ fuel ih =>
      intro n ds h
      have hcons : '#' ∉ Nat.digitChar (n % base) :: ds := by
        rw [List.mem_cons, not_or]
        exact ⟨(digitChar_ne_hash _).symm, h⟩
      simp only [Nat.toDigitsCore]
      split
      · exact hcons
      · exact ih _ _ hcons
  exact hcore _ _ _ (by simp)

end Text

namespace Percent

lemma hash_not_mem_encodeExcept {keep : Char → Bool} {cs : List Char}
    (h : keep '#' = false ∨ '#' ∉ cs) : '#' ∉ encodeExcept keep cs :=
  not_mem_encodeExcept (by decide) (by decide) h

end Percent

/-! ## Hosts -/

namespace Address

lemma not_mem_dotted (a b c d : UInt8) : '#' ∉ dotted a b c d := by
  refine Text.not_mem_join (by decide) fun piece hpiece => ?_
  obtain ⟨n, -, rfl⟩ := List.mem_map.1 hpiece
  exact Text.not_mem_toDigits _ _

lemma not_mem_groupsText (gs : List UInt16) : '#' ∉ groupsText gs := by
  refine Text.not_mem_join (by decide) fun piece hpiece => ?_
  obtain ⟨n, -, rfl⟩ := List.mem_map.1 hpiece
  exact Text.not_mem_toDigits _ _

lemma not_mem_groupsWithGap (gs : List UInt16) : '#' ∉ groupsWithGap gs := by
  rw [groupsWithGap]
  dsimp only
  split
  · exact not_mem_groupsText gs
  · simp [not_mem_groupsText]

end Address

namespace Url

namespace Domain

lemma digit_ne_hash (n : Nat) : digit n ≠ '#' := by
  rw [digit]
  split
  · refine Text.ofNat_ne_hash ?_
    have h : 'a'.toNat = 97 := rfl
    omega
  · refine Text.ofNat_ne_hash ?_
    have h : '0'.toNat = 48 := rfl
    omega

lemma not_mem_distanceDigits (bias n place d : Nat) :
    '#' ∉ distanceDigits bias n place d := by
  induction n generalizing place d with
  | zero => simp [distanceDigits]
  | succ n ih =>
    rw [distanceDigits]
    split
    · simpa using (digit_ne_hash d).symm
    · rw [List.mem_cons, not_or]
      exact ⟨(digit_ne_hash _).symm, ih _ _⟩

lemma not_mem_write {basics n : Nat} {w : Writer} (h : '#' ∉ w.digits) (c : Char) :
    '#' ∉ (w.write basics n c).digits := by
  rw [Writer.write]
  split
  · exact h
  · split
    · simp [h, not_mem_distanceDigits]
    · exact h

lemma not_mem_writeAll (label : List Char) (basics : Nat) (ns : List Nat) (least : Nat)
    {w : Writer} (h : '#' ∉ w.digits) :
    '#' ∉ (writeAll label basics ns least w).digits := by
  induction ns generalizing least w with
  | nil => exact h
  | cons n ns ih =>
    have hfold : ∀ (cs : List Char) (w : Writer), '#' ∉ w.digits →
        '#' ∉ (cs.foldl (Writer.write basics n) w).digits := by
      intro cs
      induction cs with
      | nil => exact fun w hw => hw
      | cons c cs ihcs => exact fun w hw => ihcs _ (not_mem_write hw c)
    exact ih _ (hfold label _ h)

lemma not_mem_encodeLabel {label : List Char} (h : '#' ∉ label) : '#' ∉ encodeLabel label := by
  unfold encodeLabel
  dsimp only
  have hbasic : '#' ∉ label.filter (·.toNat < 0x80) := fun hmem => h (List.mem_filter.1 hmem).1
  have hdash : '#' ∉ (if label.filter (·.toNat < 0x80) = [] then ([] : List Char) else ['-']) := by
    split <;> decide
  rw [List.mem_append, List.mem_append, not_or, not_or]
  exact ⟨⟨hbasic, hdash⟩, not_mem_writeAll _ _ _ _ (by simp)⟩

lemma not_mem_of_isValid {label : List Char} (h : label.all isValid) : '#' ∉ label :=
  fun hmem => absurd (List.all_eq_true.1 h '#' hmem) (by decide)

lemma not_mem_of_isSpelled {label : List Char} (h : isSpelled label) : '#' ∉ label := by
  rw [isSpelled, Bool.and_eq_true, List.all_eq_true] at h
  refine not_mem_of_isValid (List.all_eq_true.2 fun c hc => ?_)
  exact (Bool.and_eq_true_iff.1 (h.1 c hc)).1

lemma not_mem_readLabel {part label : List Char} (h : '#' ∉ part)
    (hread : readLabel? part = some label) : '#' ∉ label := by
  unfold readLabel? at hread
  split at hread
  · split at hread
    · rwa [← Option.some.inj hread]
    · simp at hread
  · split at hread
    · rwa [← Option.some.inj hread]
    · obtain ⟨decoded, -, hread⟩ := Option.bind_eq_some_iff.1 hread
      split at hread
      · rename_i hfits
        simp only [Bool.and_eq_true] at hfits
        rw [← Option.some.inj hread]
        exact not_mem_of_isSpelled hfits.1.1.2
      · simp at hread

lemma not_mem_writeLabel {label : List Char} (h : '#' ∉ label) : '#' ∉ writeLabel label := by
  rw [writeLabel]
  split
  · simp [encodedStart, not_mem_encodeLabel h]
  · exact h

lemma not_mem_toAscii {cs ascii : List Char} (h : toAscii? cs = some ascii) : '#' ∉ ascii := by
  rw [toAscii?] at h
  dsimp only at h
  split at h
  · simp at h
  rename_i hvalid
  rw [Bool.not_eq_true', Bool.not_eq_false] at hvalid
  obtain ⟨labels, hlabels, h⟩ := Option.bind_eq_some_iff.1 h
  split at h
  · simp at h
  obtain rfl := Option.some.inj h
  refine Text.not_mem_join (by decide) fun piece hpiece => ?_
  obtain ⟨label, hlabel, rfl⟩ := List.mem_map.1 hpiece
  obtain ⟨part, hpart, hread⟩ := Text.exists_of_mem_mapM hlabels hlabel
  exact not_mem_writeLabel
    (not_mem_readLabel (Text.not_mem_of_split (not_mem_of_isValid hvalid) hpart) hread)

end Domain

lemma not_mem_bracketed {cs host : List Char} (h : bracketed? cs = some host) : '#' ∉ host := by
  rw [bracketed?] at h
  split at h
  · obtain rfl := Option.some.inj h
    simp [Address.not_mem_groupsWithGap]
  · simp at h

lemma not_mem_ofNumbers {cs host : List Char} (h : ofNumbers? cs = some host) : '#' ∉ host := by
  rw [ofNumbers?] at h
  dsimp only at h
  split at h
  · simp at h
  obtain ⟨numbers, -, h⟩ := Option.bind_eq_some_iff.1 h
  obtain ⟨last, -, h⟩ := Option.bind_eq_some_iff.1 h
  split at h
  · simp at h
  · rw [← Option.some.inj h]
    exact Address.not_mem_dotted _ _ _ _

lemma not_mem_webHost {cs host : List Char} (h : webHost? cs = some host) : '#' ∉ host := by
  rw [webHost?] at h
  split at h
  · obtain ⟨inner, -, h⟩ := Option.bind_eq_some_iff.1 h
    exact not_mem_bracketed h
  · obtain ⟨name, hname, h⟩ := Option.bind_eq_some_iff.1 h
    split at h
    · simp at h
    · split at h
      · exact not_mem_ofNumbers h
      · rw [← Option.some.inj h]
        exact Domain.not_mem_toAscii hname

lemma not_mem_otherHost {cs host : List Char} (h : otherHost? cs = some host) : '#' ∉ host := by
  rw [otherHost?] at h
  split at h
  · obtain ⟨inner, -, h⟩ := Option.bind_eq_some_iff.1 h
    exact not_mem_bracketed h
  · split at h
    · simp at h
    · rename_i hforbidden
      rw [← Option.some.inj h]
      refine Percent.hash_not_mem_encodeExcept (Or.inr fun hmem => hforbidden ?_)
      exact List.any_eq_true.2 ⟨'#', hmem, by decide⟩

end Url

end ApiContract
