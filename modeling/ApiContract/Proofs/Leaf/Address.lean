/-
# Addresses and their text

An address is read back from its text.  Dotted numbers and groups come apart where they were
joined.  Where a run of zeros has been left out, what stands on both sides of the gap is read apart
from each other, and the gap is as long as the run was.
-/
import ApiContract.Leaf.Address
import ApiContract.Proofs.Text.Digits
import ApiContract.Proofs.Text.Pieces

namespace ApiContract.Address

variable {gs : List UInt16} {rest : List Char}

/-! ## Dotted numbers -/

lemma not_mem_decimalDigits {c : Char} (hc : c.isDigit = false) (n : Nat) :
    c ∉ Text.decimalDigits n := by
  intro hmem
  simp [(Number.areDigits_decimalDigits n).2 c hmem] at hc

lemma readByte?_decimalDigits (b : UInt8) : readByte? (Text.decimalDigits b.toNat) = some b := by
  have hlt := b.toNat_lt
  obtain ⟨hne, hdigits⟩ := Number.areDigits_decimalDigits b.toNat
  have hlength : (Text.decimalDigits b.toNat).length ≤ 3 :=
    (Nat.length_toDigits_le_iff (by decide) (by decide)).2 (by omega)
  have hvalue : (Text.decimalDigits b.toNat).foldl
      (fun n c => 10 * n + (c.toNat - '0'.toNat)) 0 = b.toNat := Number.ofDigits_decimalDigits _
  have hfirst : (Text.decimalDigits b.toNat).head? = some '0' →
      (Text.decimalDigits b.toNat).length = 1 := by
    intro hhead
    rcases Nat.eq_zero_or_pos b.toNat with hzero | hpos
    · rw [hzero]
      rfl
    · exact absurd hhead (Text.head?_decimalDigits hpos)
  rw [readByte?]
  simp only [hvalue]
  rw [if_pos ⟨hne, hlength, List.all_eq_true.2 hdigits, hlt, hfirst⟩, UInt8.ofNat_toNat]

lemma readDotted?_dotted (a b c d : UInt8) : readDotted? (dotted a b c d) = some (a, b, c, d) := by
  have hsplit : Text.split '.' (dotted a b c d) =
      [a, b, c, d].map fun n => Text.decimalDigits n.toNat := by
    refine Text.split_join_of_not_mem (by simp) fun piece hpiece => ?_
    obtain ⟨n, -, rfl⟩ := List.mem_map.1 hpiece
    exact not_mem_decimalDigits rfl _
  rw [readDotted?, hsplit]
  simp [readByte?_decimalDigits]

/-- What has no point is not dotted. -/
lemma readDotted?_eq_none {cs : List Char} (h : '.' ∉ cs) : readDotted? cs = none := by
  rw [readDotted?, Text.split_eq_singleton_iff.2 h]

lemma not_mem_dotted_of_ne {c : Char} (hdigit : c.isDigit = false) (hpoint : c ≠ '.')
    (a b c' d : UInt8) : c ∉ dotted a b c' d := by
  refine Text.not_mem_join (Ne.symm hpoint) fun piece hpiece => ?_
  obtain ⟨n, -, rfl⟩ := List.mem_map.1 hpiece
  exact not_mem_decimalDigits hdigit _

/-! ## Groups -/

lemma not_mem_hexDigits {c : Char} (hc : Text.digit? c = none) (n : Nat) :
    c ∉ Text.hexDigits n :=
  fun hmem => Text.digit?_of_mem_hexDigits hmem hc

lemma readGroup?_hexDigits (g : UInt16) : readGroup? (Text.hexDigits g.toNat) = some g := by
  have hlt := g.toNat_lt
  have hlength : (Text.hexDigits g.toNat).length ≤ 4 :=
    (Nat.length_toDigits_le_iff (by decide) (by decide)).2 (by omega)
  rw [readGroup?, if_pos ⟨Nat.toDigits_ne_nil, hlength⟩, Text.foldlM_hexDigits, Option.map_some,
    UInt16.ofNat_toNat]

lemma split_groupsText (hne : gs ≠ []) :
    Text.split ':' (groupsText gs) = gs.map fun g => Text.hexDigits g.toNat := by
  refine Text.split_join_of_not_mem (by simpa using hne) fun piece hpiece => ?_
  obtain ⟨g, -, rfl⟩ := List.mem_map.1 hpiece
  exact not_mem_hexDigits (by decide) _

lemma mapM_readGroup? (gs : List UInt16) :
    (gs.map fun g => Text.hexDigits g.toNat).mapM readGroup? = some gs := by
  induction gs with
  | nil => rfl
  | cons g gs ih => simp [readGroup?_hexDigits, ih]

lemma readGroups?_groupsText (hne : gs ≠ []) : readGroups? (groupsText gs) = some gs := by
  obtain ⟨last, before, hreverse⟩ := List.exists_cons_of_ne_nil
    (show (gs.map fun g => Text.hexDigits g.toNat).reverse ≠ [] by simpa using hne)
  have hlast : last ∈ gs.map fun g => Text.hexDigits g.toNat := by
    rw [← List.mem_reverse, hreverse]
    exact List.mem_cons_self
  obtain ⟨g, -, hg⟩ := List.mem_map.1 hlast
  have hpoint : '.' ∉ last := hg ▸ not_mem_hexDigits (by decide) _
  rw [readGroups?, split_groupsText hne]
  simp only [hreverse, readDotted?_eq_none hpoint]
  exact mapM_readGroup? gs

/-- An address of version 4 stands for the last two groups. -/
lemma readGroups?_dotted {group : List Char} {g : UInt16} (hgroup : ':' ∉ group)
    (hread : readGroup? group = some g) (a b c d : UInt8) :
    readGroups? (group ++ ':' :: dotted a b c d) =
      some [g, a.toUInt16 * 256 + b.toUInt16, c.toUInt16 * 256 + d.toUInt16] := by
  have hdotted := not_mem_dotted_of_ne (c := ':') (by decide) (by decide) a b c d
  rw [readGroups?, Text.split_append, Text.split_eq_singleton_iff.2 hgroup,
    Text.split_eq_singleton_iff.2 hdotted]
  simp [readDotted?_dotted, hread]

/-- A group of sixteen bits is put together of its two bytes. -/
lemma bytes_of_group (g : UInt16) :
    (g / 256).toUInt8.toUInt16 * 256 + g.toUInt8.toUInt16 = g := by
  refine UInt16.toNat_inj.1 ?_
  have hlt := g.toNat_lt
  simp only [UInt16.toNat_add, UInt16.toNat_mul, UInt8.toNat_toUInt16, UInt16.toNat_toUInt8,
    UInt16.toNat_div, UInt16.toNat_ofNat, Nat.reducePow, Nat.reduceMod]
  omega

/-! ## Gaps -/

lemma cutGap_append {piece : List Char} (h : ':' ∉ piece) (rest : List Char) :
    cutGap (piece ++ rest) =
      (cutGap rest).map fun (before, after) => (piece ++ before, after) := by
  induction piece with
  | nil => simp
  | cons c piece ih =>
    obtain ⟨hc, hpiece⟩ := not_or.1 (mt List.mem_cons.2 h)
    rw [List.cons_append, cutGap, ih hpiece, Option.map_map]
    · rfl
    · rintro _ rfl
      exact absurd rfl hc

lemma exists_hexDigits_eq_cons (n : Nat) : ∃ c cs, Text.hexDigits n = c :: cs ∧ c ≠ ':' := by
  obtain ⟨c, cs, heq⟩ := List.exists_cons_of_ne_nil
    (Nat.toDigits_ne_nil : Nat.toDigits 16 n ≠ [])
  refine ⟨c, cs, heq, ?_⟩
  rintro rfl
  refine not_mem_hexDigits (c := ':') (by decide) n ?_
  rw [Text.hexDigits, heq]
  exact List.mem_cons_self

lemma groupsText_cons_cons (g g' : UInt16) (gs : List UInt16) :
    groupsText (g :: g' :: gs) = Text.hexDigits g.toNat ++ ':' :: groupsText (g' :: gs) :=
  rfl

lemma exists_groupsText_eq_cons (g : UInt16) (gs : List UInt16) :
    ∃ c cs, groupsText (g :: gs) = c :: cs ∧ c ≠ ':' := by
  obtain ⟨c, cs, heq, hc⟩ := exists_hexDigits_eq_cons g.toNat
  cases gs with
  | nil => exact ⟨c, cs, heq, hc⟩
  | cons g' gs => exact ⟨c, _, by rw [groupsText_cons_cons, heq]; rfl, hc⟩

/-- There is no gap among groups. -/
lemma cutGap_groupsText_append (gs : List UInt16) (rest : List Char) :
    cutGap (groupsText gs ++ rest) =
      (cutGap rest).map fun (before, after) => (groupsText gs ++ before, after) := by
  induction gs with
  | nil => simp [groupsText, Text.join]
  | cons g gs ih =>
    have hpiece := not_mem_hexDigits (c := ':') (by decide) g.toNat
    cases gs with
    | nil => exact cutGap_append hpiece rest
    | cons g' gs =>
      obtain ⟨c, cs, heq, hc⟩ := exists_groupsText_eq_cons g' gs
      rw [groupsText_cons_cons, List.append_assoc, cutGap_append hpiece, List.cons_append]
      -- The colon does not begin a gap, since a digit comes next.
      have hcolon : cutGap (':' :: (groupsText (g' :: gs) ++ rest)) =
          (cutGap (groupsText (g' :: gs) ++ rest)).map fun (before, after) =>
            (':' :: before, after) := by
        rw [heq, List.cons_append, cutGap]
        rintro _ - h
        exact hc (List.cons.inj h).1
      rw [hcolon, ih, Option.map_map, Option.map_map]
      congr 1
      funext sides
      obtain ⟨before, after⟩ := sides
      simp

lemma cutGap_groupsText (gs : List UInt16) : cutGap (groupsText gs) = none := by
  simpa [cutGap] using cutGap_groupsText_append gs []

lemma cutGap_gap (gs : List UInt16) (after : List Char) :
    cutGap (groupsText gs ++ ':' :: ':' :: after) = some (groupsText gs, after) := by
  rw [cutGap_groupsText_append]
  simp [cutGap]

lemma groupsText_eq_nil_iff : groupsText gs = [] ↔ gs = [] := by
  constructor
  · intro h
    cases gs with
    | nil => rfl
    | cons g gs =>
      obtain ⟨c, cs, heq, -⟩ := exists_groupsText_eq_cons g gs
      simp [heq] at h
  · rintro rfl
    rfl

/-- The groups on one side of a gap, possibly none, are read as they are. -/
lemma readSide?_groupsText (gs : List UInt16) : readSide? (groupsText gs) = some gs := by
  rw [readSide?]
  split
  · rename_i hnil
    rw [groupsText_eq_nil_iff.1 hnil]
  · rename_i hne
    exact readGroups?_groupsText (mt groupsText_eq_nil_iff.2 hne)

/-! ## The longest run of zeros -/

lemma take_of_le_leadingZeros {n : Nat} (h : n ≤ leadingZeros gs) :
    gs.take n = List.replicate n 0 := by
  induction n generalizing gs with
  | zero => simp
  | succ n ih =>
    cases gs with
    | nil => simp [leadingZeros] at h
    | cons g gs =>
      by_cases hg : g = 0
      · subst hg
        rw [List.take_succ_cons, List.replicate_succ, ih]
        simpa [leadingZeros] using h
      · simp [leadingZeros, hg] at h

/-- Where the longest run begins there are as many zeros as it is long. -/
lemma longestRun_le (gs : List UInt16) :
    (longestRun gs).2 ≤ leadingZeros (gs.drop (longestRun gs).1) := by
  have hfold : ∀ (indices : List Nat) (best : Nat × Nat),
      best.2 ≤ leadingZeros (gs.drop best.1) →
      (indices.foldl (fun best i =>
        if best.2 < leadingZeros (gs.drop i) then (i, leadingZeros (gs.drop i)) else best) best).2 ≤
      leadingZeros (gs.drop (indices.foldl (fun best i =>
        if best.2 < leadingZeros (gs.drop i) then (i, leadingZeros (gs.drop i)) else best)
          best).1) := by
    intro indices
    induction indices with
    | nil => exact fun _ hbest => hbest
    | cons i indices ih =>
      intro best hbest
      rw [List.foldl_cons]
      refine ih _ ?_
      split
      · exact Nat.le_refl _
      · exact hbest
  exact hfold _ (0, 0) (Nat.zero_le _)

/-- Groups are what comes before the longest run, its zeros, and what comes after it. -/
lemma append_longestRun (gs : List UInt16) :
    gs.take (longestRun gs).1 ++ List.replicate (longestRun gs).2 0 ++
      gs.drop ((longestRun gs).1 + (longestRun gs).2) = gs := by
  rw [← take_of_le_leadingZeros (longestRun_le gs), List.append_assoc, ← List.drop_drop,
    List.take_append_drop, List.take_append_drop]

/-! ## Addresses -/

/-- Around a gap, the groups before it and after it are read apart from each other. -/
lemma readV6?_of_cutGap {cs before after : List Char} (h : cutGap cs = some (before, after)) :
    readV6? cs =
      (if before = [] then some [] else (Text.split ':' before).mapM readGroup?).bind fun head =>
        (readSide? after).bind fun tail =>
          if head.length + tail.length ≤ 7 then
            ofGroups? (head ++ List.replicate (8 - head.length - tail.length) 0 ++ tail)
          else none := by
  rw [readV6?, h]
  dsimp only
  split <;> rfl

/-- A gap is as long as it takes to make up eight groups. -/
lemma readV6?_gap {before after : List UInt16} (h : before.length + after.length ≤ 7) :
    readV6? (groupsText before ++ ':' :: ':' :: groupsText after) =
      ofGroups? (before ++ List.replicate (8 - before.length - after.length) 0 ++ after) := by
  have hbefore : (if groupsText before = [] then some []
      else (Text.split ':' (groupsText before)).mapM readGroup?) = some before := by
    split
    · rename_i hnil
      rw [groupsText_eq_nil_iff.1 hnil]
    · rename_i hne
      rw [split_groupsText (mt groupsText_eq_nil_iff.2 hne), mapM_readGroup?]
  rw [readV6?_of_cutGap (cutGap_gap before (groupsText after)), hbefore, readSide?_groupsText,
    Option.bind_some, Option.bind_some, if_pos h]

/-- Eight groups are read back, with or without a gap. -/
lemma readV6?_groupsWithGap (hlength : gs.length = 8) :
    readV6? (groupsWithGap gs) = ofGroups? gs := by
  have hne : gs ≠ [] := by
    rintro rfl
    simp at hlength
  rw [groupsWithGap]
  dsimp only
  split
  · rw [readV6?, cutGap_groupsText]
    simp [readGroups?_groupsText hne]
  · rename_i hlong
    have happend := append_longestRun gs
    have hsum := congrArg List.length happend
    rw [List.length_append, List.length_append, List.length_replicate, hlength] at hsum
    have hgap : 8 - (gs.take (longestRun gs).1).length -
        (gs.drop ((longestRun gs).1 + (longestRun gs).2)).length = (longestRun gs).2 := by
      omega
    rw [readV6?_gap (by omega), hgap, happend]

/-- **Addresses of version 4 are read back from their text.** -/
theorem readV4?_text (a b c d : UInt8) : readV4? (v4 a b c d).text = some (v4 a b c d) := by
  rw [readV4?, text, readDotted?_dotted]
  rfl

/-- **Addresses of version 6 are read back from their text**, however it is shortened. -/
theorem readV6?_text (g₀ g₁ g₂ g₃ g₄ g₅ g₆ g₇ : UInt16) :
    readV6? (v6 g₀ g₁ g₂ g₃ g₄ g₅ g₆ g₇).text = some (v6 g₀ g₁ g₂ g₃ g₄ g₅ g₆ g₇) := by
  rw [text]
  split
  · -- The last two groups are written as an address of version 4, after a group of ones.
    rename_i hmapped
    obtain ⟨hzeros, rfl⟩ := hmapped
    simp only [List.cons.injEq, and_true] at hzeros
    obtain ⟨rfl, rfl, rfl, rfl, rfl⟩ := hzeros
    have hread := readGroups?_dotted (g := 0xFFFF) (show ':' ∉ ['f', 'f', 'f', 'f'] by decide)
      (by decide) (g₆ / 256).toUInt8 g₆.toUInt8 (g₇ / 256).toUInt8 g₇.toUInt8
    rw [bytes_of_group, bytes_of_group] at hread
    change readV6? (':' :: ':' :: (['f', 'f', 'f', 'f'] ++ ':' :: dotted (g₆ / 256).toUInt8
      g₆.toUInt8 (g₇ / 256).toUInt8 g₇.toUInt8)) = _
    rw [readV6?, cutGap]
    simp only [if_true, readSide?, hread]
    rfl
  · exact readV6?_groupsWithGap rfl

/-- What is read as an address of version 6 is one. -/
lemma exists_of_readV6? {cs : List Char} {a : Address} (h : readV6? cs = some a) :
    ∃ g₀ g₁ g₂ g₃ g₄ g₅ g₆ g₇, a = v6 g₀ g₁ g₂ g₃ g₄ g₅ g₆ g₇ := by
  have hgroups {gs : List UInt16} (hgs : ofGroups? gs = some a) :
      ∃ g₀ g₁ g₂ g₃ g₄ g₅ g₆ g₇, a = v6 g₀ g₁ g₂ g₃ g₄ g₅ g₆ g₇ := by
    unfold ofGroups? at hgs
    split at hgs
    · exact ⟨_, _, _, _, _, _, _, _, (Option.some.inj hgs).symm⟩
    · cases hgs
  cases hcut : cutGap cs with
  | none =>
    rw [readV6?, hcut] at h
    obtain ⟨gs, -, hgs⟩ := Option.bind_eq_some_iff.1 h
    exact hgroups hgs
  | some parts =>
    rw [readV6?_of_cutGap hcut] at h
    obtain ⟨head, -, h⟩ := Option.bind_eq_some_iff.1 h
    obtain ⟨tail, -, h⟩ := Option.bind_eq_some_iff.1 h
    split at h
    · exact hgroups h
    · cases h

end ApiContract.Address
