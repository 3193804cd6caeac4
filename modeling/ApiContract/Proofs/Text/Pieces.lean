/-
# Cutting what has been joined

Joined pieces come apart again where they were joined, and also at separators inside of them.  So
splitting undoes joining exactly if no piece has a separator.
-/
import ApiContract.Text.Pieces
import Mathlib.Data.List.TakeWhile
import Mathlib.Tactic.Common

namespace ApiContract.Text

variable {sep : Char} {cs : List Char} {pieces : List (List Char)}

/-! ## Cutting once -/

lemma cut_eq_some_iff {before after : List Char} :
    cut sep cs = some (before, after) ↔ cs = before ++ sep :: after ∧ sep ∉ before := by
  induction cs generalizing before with
  | nil => simp [cut]
  | cons c cs ih =>
    rw [cut]
    split
    · rename_i hc
      subst hc
      constructor
      · rintro ⟨⟩
        simp
      · rintro ⟨h, hnot⟩
        cases before with
        | nil => simpa using h
        | cons d before => simp_all
    · rename_i hc
      rw [Option.map_eq_some_iff]
      constructor
      · rintro ⟨⟨before', after'⟩, hcut, ⟨⟩⟩
        obtain ⟨rfl, hnot⟩ := ih.1 hcut
        exact ⟨rfl, by simp [hnot, Ne.symm hc]⟩
      · rintro ⟨h, hnot⟩
        cases before with
        | nil => exact absurd (List.cons.inj h).1 hc
        | cons d before =>
          obtain ⟨rfl, rfl⟩ := List.cons.inj h
          exact ⟨(before, after), ih.2 ⟨rfl, fun hmem => hnot (List.mem_cons_of_mem _ hmem)⟩, rfl⟩

/-- A text that is cut at the first separator, or goes on to its end. -/
lemma cut_getD (sep : Char) (cs : List Char) :
    (cut sep cs).getD (cs, []) = (cs.takeWhile (· ≠ sep), (cs.dropWhile (· ≠ sep)).drop 1) := by
  induction cs with
  | nil => rfl
  | cons c cs ih =>
    by_cases hc : c = sep
    · simp [cut, hc]
    · rw [cut, if_neg hc, List.takeWhile_cons_of_pos (by simpa using hc),
        List.dropWhile_cons_of_pos (by simpa using hc)]
      obtain ⟨hbefore, hafter⟩ := Prod.mk.inj ih.symm
      rw [hbefore, hafter]
      cases cut sep cs <;> rfl

/-! ## Splitting -/

lemma split_append (sep : Char) (as bs : List Char) :
    split sep (as ++ sep :: bs) = split sep as ++ split sep bs := by
  induction as with
  | nil => simp [split]
  | cons a as ih =>
    rw [List.cons_append, split, split, ih]
    split
    · rfl
    · -- The first piece of the beginning goes on with one more character.
      obtain ⟨piece, rest, hsplit⟩ := List.exists_cons_of_ne_nil (split_ne_nil sep as)
      rw [hsplit]
      rfl

/-- A text is one piece exactly if it has no separator. -/
lemma split_eq_singleton_iff : split sep cs = [cs] ↔ sep ∉ cs := by
  induction cs with
  | nil => simp [split]
  | cons c cs ih =>
    rw [split, List.mem_cons, not_or]
    split
    · rename_i hc
      simp [hc, split_ne_nil]
    · rename_i hc
      obtain ⟨piece, rest, hsplit⟩ := List.exists_cons_of_ne_nil (split_ne_nil sep cs)
      rw [hsplit] at ih ⊢
      simpa [Ne.symm hc] using ih

/-- No piece has a separator. -/
lemma not_mem_of_mem_split {piece : List Char} (h : piece ∈ split sep cs) : sep ∉ piece := by
  induction cs generalizing piece with
  | nil =>
    obtain rfl := List.mem_singleton.1 h
    exact List.not_mem_nil
  | cons c cs ih =>
    obtain ⟨first, rest, hsplit⟩ := List.exists_cons_of_ne_nil (split_ne_nil sep cs)
    rw [split, hsplit] at h
    rw [hsplit] at ih
    split at h
    · rcases List.mem_cons.1 h with rfl | h
      · exact List.not_mem_nil
      · exact ih h
    · rename_i hc
      rcases List.mem_cons.1 h with rfl | h
      · rw [List.mem_cons, not_or]
        exact ⟨Ne.symm hc, ih List.mem_cons_self⟩
      · exact ih (List.mem_cons_of_mem _ h)

lemma length_split_pos (sep : Char) (cs : List Char) : 1 ≤ (split sep cs).length :=
  List.length_pos_iff.2 (split_ne_nil sep cs)

lemma eq_of_split_eq_singleton {piece : List Char} (h : split sep cs = [piece]) : piece = cs := by
  induction cs generalizing piece with
  | nil => simpa [split, eq_comm] using h
  | cons c cs ih =>
    rw [split] at h
    split at h
    · simp [split_ne_nil] at h
    · obtain ⟨first, rest, hsplit⟩ := List.exists_cons_of_ne_nil (split_ne_nil sep cs)
      rw [hsplit] at h
      obtain ⟨rfl, rfl⟩ := List.cons.inj h
      rw [ih hsplit]

/-! ## The first piece -/

/-- What comes first between the separators of a text, if it has other characters. -/
def firstPiece (sep : Char) (cs : List Char) : List Char :=
  (cs.dropWhile (· = sep)).takeWhile (· ≠ sep)

/-- The first piece of a text ends before the first separator. -/
lemma exists_split_eq_cons (sep : Char) (cs : List Char) :
    ∃ rest, split sep cs = cs.takeWhile (· ≠ sep) :: rest := by
  induction cs with
  | nil => exact ⟨[], rfl⟩
  | cons c cs ih =>
    rw [split]
    split
    · rename_i hc
      exact ⟨split sep cs, by simp [hc]⟩
    · rename_i hc
      obtain ⟨rest, hrest⟩ := ih
      rw [hrest, List.takeWhile_cons_of_pos (by simpa using hc)]
      exact ⟨rest, rfl⟩

/-- The first piece that is not empty begins after the separators at the beginning. -/
lemma head?_filter_split {c : Char} (hmem : c ∈ cs) (hc : c ≠ sep) :
    ((split sep cs).filter (· ≠ [])).head? = some (firstPiece sep cs) := by
  induction cs with
  | nil => cases hmem
  | cons d cs ih =>
    by_cases hd : d = sep
    · subst hd
      have hrest : c ∈ cs := (List.mem_cons.1 hmem).resolve_left hc
      rw [firstPiece, split, if_pos rfl, List.dropWhile_cons_of_pos (by simp),
        List.filter_cons_of_neg (by simp), ih hrest, firstPiece]
    · obtain ⟨rest, hsplit⟩ := exists_split_eq_cons sep (d :: cs)
      rw [List.takeWhile_cons_of_pos (by simpa using hd)] at hsplit
      rw [hsplit, List.filter_cons_of_pos (by simp), firstPiece,
        List.dropWhile_cons_of_neg (by simpa using hd),
        List.takeWhile_cons_of_pos (by simpa using hd)]
      rfl

/-- Nothing of a text is left out exactly if it has no separator. -/
lemma firstPiece_eq_self_iff : firstPiece sep cs = cs ↔ sep ∉ cs := by
  constructor
  · intro h hmem
    have hmem' : sep ∈ firstPiece sep cs := h.symm ▸ hmem
    simpa using List.mem_takeWhile_imp hmem'
  · intro h
    have hne : ∀ c ∈ cs, c ≠ sep := fun c hc heq => h (heq ▸ hc)
    have hstart : cs.dropWhile (· = sep) = cs := by
      cases cs with
      | nil => rfl
      | cons c cs => exact List.dropWhile_cons_of_neg (by simpa using hne c List.mem_cons_self)
    rw [firstPiece, hstart, List.takeWhile_eq_self_iff]
    simpa using hne

/-! ## Joining -/

lemma not_mem_join {c : Char} (hc : sep ≠ c) (h : ∀ piece ∈ pieces, c ∉ piece) :
    c ∉ join sep pieces := by
  induction pieces with
  | nil => simp [join]
  | cons piece pieces ih =>
    cases pieces with
    | nil => simpa [join] using h piece (by simp)
    | cons next pieces =>
      rw [join, List.mem_append, List.mem_cons, not_or, not_or]
      · refine ⟨h piece (by simp), Ne.symm hc, ih fun p hp => h p (by simp [hp])⟩
      · simp

lemma join_cons_cons (sep : Char) (piece next : List Char) (pieces : List (List Char)) :
    join sep (piece :: next :: pieces) = piece ++ sep :: join sep (next :: pieces) :=
  rfl

/-- Joined pieces come apart where they were joined and at the separators inside of them. -/
lemma split_join (sep : Char) (hne : pieces ≠ []) :
    split sep (join sep pieces) = pieces.flatMap (split sep) := by
  induction pieces with
  | nil => exact absurd rfl hne
  | cons piece pieces ih =>
    cases pieces with
    | nil => simp [join]
    | cons next pieces =>
      rw [join_cons_cons, split_append, ih (List.cons_ne_nil _ _), List.flatMap_cons (x := piece)]

/-- Splitting leaves a list of pieces as it is exactly if none of them has a separator. -/
lemma flatMap_split_eq_self_iff :
    pieces.flatMap (split sep) = pieces ↔ ∀ piece ∈ pieces, sep ∉ piece := by
  have hlength : ∀ ps : List (List Char), ps.length ≤ (ps.flatMap (split sep)).length := by
    intro ps
    induction ps with
    | nil => simp
    | cons p ps ih =>
      have := length_split_pos sep p
      rw [List.flatMap_cons, List.length_append, List.length_cons]
      omega
  induction pieces with
  | nil => simp
  | cons piece pieces ih =>
    rw [List.forall_mem_cons, List.flatMap_cons, ← split_eq_singleton_iff]
    constructor
    · intro h
      -- Were there two pieces of the first one, there would be too many.
      have htotal := congrArg List.length h
      have hrest := hlength pieces
      have hfirst := length_split_pos sep piece
      rw [List.length_append, List.length_cons] at htotal
      obtain ⟨p, hp⟩ := List.length_eq_one_iff.1 (show (split sep piece).length = 1 by omega)
      obtain rfl := eq_of_split_eq_singleton hp
      rw [hp] at h ⊢
      exact ⟨rfl, ih.1 (List.cons.inj h).2⟩
    · rintro ⟨hpiece, hpieces⟩
      rw [hpiece, ih.2 hpieces]
      rfl

lemma split_join_of_not_mem (hne : pieces ≠ []) (h : ∀ piece ∈ pieces, sep ∉ piece) :
    split sep (join sep pieces) = pieces := by
  rw [split_join sep hne, flatMap_split_eq_self_iff.2 h]

/-! ## Beginnings and ends -/

lemma dropPrefix?_eq_some_iff {start rest : List Char} :
    dropPrefix? start cs = some rest ↔ cs = start ++ rest := by
  induction start generalizing cs with
  | nil => simp [dropPrefix?]
  | cons s start ih =>
    cases cs with
    | nil => simp [dropPrefix?]
    | cons c cs =>
      simp only [dropPrefix?, List.cons_append, List.cons.injEq]
      split
      · rename_i hc
        rw [ih, and_iff_right hc]
      · rename_i hc
        simp [hc]

lemma dropSuffix?_eq_some_iff {stop rest : List Char} :
    dropSuffix? stop cs = some rest ↔ cs = rest ++ stop := by
  rw [dropSuffix?, Option.map_eq_some_iff]
  constructor
  · rintro ⟨before, hbefore, rfl⟩
    rw [dropPrefix?_eq_some_iff] at hbefore
    simpa using congrArg List.reverse hbefore
  · rintro rfl
    exact ⟨rest.reverse, dropPrefix?_eq_some_iff.2 (by simp), List.reverse_reverse rest⟩

end ApiContract.Text
