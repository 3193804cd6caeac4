/-
# Timestamps and their text

A timestamp is read with four digits for its year, so it is read back from its text if its year has
no more, and no sign.  This holds of every timestamp that has been read.
-/
import ApiContract.Leaf.Timestamp
import ApiContract.Proofs.Leaf.Date

namespace ApiContract.Timestamp

open Date (EndsDigits endsDigits_cons takeNumber?_padded takeChar?_cons)

variable {n : Nat} {rest : List Char}

/-! ## Two digits -/

lemma takeNumber?_two (hn : n < 100) (hrest : EndsDigits rest) :
    Date.takeNumber? 2 2 (Text.padded 2 n ++ rest) = some (n, rest) :=
  takeNumber?_padded (by decide) hn (by decide) (by decide) hrest

/-! ## Fractions and offsets -/

/-- Digits after a point are those of the nanoseconds that come first. -/
lemma takeFraction?_padded {width : Nat} (hwidth : 0 < width) (hmost : width ≤ 9)
    (hn : n < 10 ^ width) (hrest : EndsDigits rest) :
    takeFraction? ('.' :: (Text.padded width n ++ rest)) = some (n * 10 ^ (9 - width), rest) := by
  have hdigits := (Text.areDigits_padded width n).2
  have hlength := Text.length_padded hwidth hn
  have htake : Date.takeNumber? 1 9 (Text.padded width n ++ rest) = some (n, rest) :=
    takeNumber?_padded hwidth hn hwidth hmost hrest
  have hdrop : (Text.padded width n ++ rest).dropWhile Char.isDigit = rest := by
    have happend := List.takeWhile_append_dropWhile
      (p := Char.isDigit) (l := Text.padded width n ++ rest)
    rw [Date.takeWhile_isDigit hdigits hrest] at happend
    exact List.append_cancel_left happend
  rw [takeFraction?, htake, hdrop, Date.takeWhile_isDigit hdigits hrest,
    List.take_of_length_le (by omega), hlength]
  rfl

lemma takeFraction?_fractionText (hn : n < 1000000000) (hrest : EndsDigits rest)
    (hpoint : ∀ c ∈ rest.head?, c ≠ '.') :
    takeFraction? (fractionText n ++ rest) = some (n, rest) := by
  rw [fractionText]
  split
  · rename_i hzero
    cases rest with
    | nil => simp [takeFraction?, hzero]
    | cons c cs => simp [takeFraction?, hpoint c rfl, hzero]
  split
  · rw [List.cons_append, takeFraction?_padded (by decide) (by decide) (by omega) hrest]
    simp only [Option.some.injEq, Prod.mk.injEq, and_true]
    omega
  split
  · rw [List.cons_append, takeFraction?_padded (by decide) (by decide) (by omega) hrest]
    simp only [Option.some.injEq, Prod.mk.injEq, and_true]
    omega
  · rw [List.cons_append, takeFraction?_padded (by decide) (by decide) (by omega) hrest]
    simp

lemma takeOffset?_offsetText {offset : Int} (hlow : -1440 < offset) (hhigh : offset < 1440) :
    takeOffset? (offsetText offset) = some (offset, []) := by
  have hhours := takeNumber?_two (n := offset.natAbs / 60) (by omega)
    (endsDigits_cons (c := ':') rfl (Text.padded 2 (offset.natAbs % 60)))
  have hminutes := takeNumber?_two (n := offset.natAbs % 60) (by omega) Date.endsDigits_nil
  rw [List.append_nil] at hminutes
  rw [offsetText]
  split
  · rename_i hzero
    rw [hzero]
    rfl
  · split
    · simp only [takeOffset?, hhours, hminutes, takeChar?_cons, Option.bind_eq_bind,
        Option.bind_some, Option.map_if, Option.ite_none_right_eq_some, Option.some.injEq,
        Prod.mk.injEq, and_true]
      omega
    · simp only [takeOffset?, hhours, hminutes, takeChar?_cons, Option.bind_eq_bind,
        Option.bind_some, Option.map_if, Option.ite_none_right_eq_some, Option.some.injEq,
        Prod.mk.injEq, and_true]
      omega

/-- What comes after the seconds is neither a digit nor a second point. -/
lemma exists_offsetText_eq_cons (offset : Int) :
    ∃ c cs, offsetText offset = c :: cs ∧ c.isDigit = false ∧ c ≠ '.' := by
  rw [offsetText]
  split
  · exact ⟨_, _, rfl, by decide⟩
  · split <;> exact ⟨_, _, rfl, by decide⟩

/-! ## Timestamps -/

/-- **Timestamps are read back from their text** if their year has four digits and no sign. -/
theorem read?_text (t : Timestamp) (hleast : 0 ≤ t.date.year) (hmost : t.date.year ≤ 9999) :
    read? t.text = some t := by
  obtain ⟨hhour, hminute, hsecond, hnanosecond, hlow, hhigh⟩ := t.inRange
  obtain ⟨c, cs, hoffset, hdigit, hpoint⟩ := exists_offsetText_eq_cons t.offset
  have hend : EndsDigits (offsetText t.offset) := hoffset ▸ endsDigits_cons hdigit cs
  have hend' : EndsDigits (fractionText t.nanosecond ++ offsetText t.offset) := by
    rw [fractionText]
    split
    · exact hend
    split
    · exact endsDigits_cons rfl _
    split <;> exact endsDigits_cons rfl _
  have hyear (rest : List Char) : Date.takeNumber? 4 4
      (Text.padded 4 t.date.year.toNat ++ '-' :: rest) = some (t.date.year.toNat, '-' :: rest) :=
    takeNumber?_padded (by decide) (by omega) (by decide) (by decide) (endsDigits_cons rfl rest)
  have hmonth (rest : List Char) : Date.takeNumber? 2 2
      (Text.padded 2 t.date.month ++ '-' :: rest) = some (t.date.month, '-' :: rest) :=
    takeNumber?_two t.date.month_lt (endsDigits_cons rfl rest)
  have hday (rest : List Char) : Date.takeNumber? 2 2
      (Text.padded 2 t.date.day ++ 'T' :: rest) = some (t.date.day, 'T' :: rest) :=
    takeNumber?_two t.date.day_lt (endsDigits_cons rfl rest)
  have hclock {n : Nat} (hn : n < 60) (rest : List Char) : Date.takeNumber? 2 2
      (Text.padded 2 n ++ ':' :: rest) = some (n, ':' :: rest) :=
    takeNumber?_two (by omega) (endsDigits_cons rfl rest)
  have hseconds := takeNumber?_two (n := t.second) (by omega) hend'
  have hfraction := takeFraction?_fractionText hnanosecond hend
    (by simpa [hoffset] using hpoint)
  rw [text, Date.text, Date.yearText, if_pos ⟨hleast, hmost⟩]
  simp only [List.append_assoc, List.cons_append]
  rw [read?]
  refine Option.bind_eq_some_iff.2 ⟨_, hyear _, ?_⟩
  refine Option.bind_eq_some_iff.2 ⟨_, takeChar?_cons _ _, ?_⟩
  refine Option.bind_eq_some_iff.2 ⟨_, hmonth _, ?_⟩
  refine Option.bind_eq_some_iff.2 ⟨_, takeChar?_cons _ _, ?_⟩
  refine Option.bind_eq_some_iff.2 ⟨_, hday _, ?_⟩
  refine Option.bind_eq_some_iff.2 ⟨_, rfl, ?_⟩
  refine Option.bind_eq_some_iff.2 ⟨_, hclock (by omega) _, ?_⟩
  refine Option.bind_eq_some_iff.2 ⟨_, takeChar?_cons _ _, ?_⟩
  refine Option.bind_eq_some_iff.2 ⟨_, hclock hminute _, ?_⟩
  refine Option.bind_eq_some_iff.2 ⟨_, takeChar?_cons _ _, ?_⟩
  refine Option.bind_eq_some_iff.2 ⟨_, hseconds, ?_⟩
  refine Option.bind_eq_some_iff.2 ⟨_, hfraction, ?_⟩
  refine Option.bind_eq_some_iff.2 ⟨_, takeOffset?_offsetText hlow hhigh, ?_⟩
  rw [Int.toNat_of_nonneg hleast, t.date.of?_eq]
  refine Option.bind_eq_some_iff.2 ⟨_, rfl, ?_⟩
  rw [dif_pos t.inRange, if_pos rfl]

/-- The year of a timestamp that has been read has four digits and no sign. -/
lemma year_of_read? {cs : List Char} {t : Timestamp} (h : read? cs = some t) :
    0 ≤ t.date.year ∧ t.date.year ≤ 9999 := by
  unfold read? at h
  -- The year comes first, and the date is made last of all.
  obtain ⟨⟨year, _⟩, hyear, h⟩ := Option.bind_eq_some_iff.1 h
  obtain ⟨_, -, h⟩ := Option.bind_eq_some_iff.1 h
  obtain ⟨⟨_, _⟩, -, h⟩ := Option.bind_eq_some_iff.1 h
  obtain ⟨_, -, h⟩ := Option.bind_eq_some_iff.1 h
  obtain ⟨⟨_, _⟩, -, h⟩ := Option.bind_eq_some_iff.1 h
  obtain ⟨_, -, h⟩ := Option.bind_eq_some_iff.1 h
  obtain ⟨⟨_, _⟩, -, h⟩ := Option.bind_eq_some_iff.1 h
  obtain ⟨_, -, h⟩ := Option.bind_eq_some_iff.1 h
  obtain ⟨⟨_, _⟩, -, h⟩ := Option.bind_eq_some_iff.1 h
  obtain ⟨_, -, h⟩ := Option.bind_eq_some_iff.1 h
  obtain ⟨⟨_, _⟩, -, h⟩ := Option.bind_eq_some_iff.1 h
  obtain ⟨⟨_, _⟩, -, h⟩ := Option.bind_eq_some_iff.1 h
  obtain ⟨⟨_, _⟩, -, h⟩ := Option.bind_eq_some_iff.1 h
  obtain ⟨date, hdate, h⟩ := Option.bind_eq_some_iff.1 h
  have hlt : year < 10 ^ 4 := Date.lt_of_takeNumber? hyear
  have hdateYear := Date.year_of_of? hdate
  split at h
  · split at h
    · obtain rfl := Option.some.inj h
      dsimp only
      omega
    · cases h
  · cases h

end ApiContract.Timestamp
