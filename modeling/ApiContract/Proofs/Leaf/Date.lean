/-
# Dates and their text

A date is read back from its text: no number of it is shorter than the reader takes it to be, and
each of them ends where the hyphen after it begins.
-/
import ApiContract.Leaf.Date
import ApiContract.Proofs.Text.Digits
import Mathlib.Data.List.TakeWhile

namespace ApiContract.Date

open Number (AreDigits ofDigits)

variable {least most width n : Nat} {rest : List Char}

/-! ## Numbers -/

/-- A text that does not go on with a digit. -/
def EndsDigits (rest : List Char) : Prop :=
  ∀ c ∈ rest.head?, c.isDigit = false

lemma endsDigits_nil : EndsDigits [] := by
  simp [EndsDigits]

lemma endsDigits_cons {c : Char} (h : c.isDigit = false) (cs : List Char) :
    EndsDigits (c :: cs) := by
  simpa [EndsDigits] using h

lemma takeWhile_isDigit {ds : List Char} (hds : ∀ d ∈ ds, d.isDigit = true)
    (hrest : EndsDigits rest) : (ds ++ rest).takeWhile Char.isDigit = ds := by
  rw [List.takeWhile_append_of_pos hds]
  cases rest with
  | nil => simp
  | cons c cs => rw [List.takeWhile_cons_of_neg (by simp [hrest c rfl]), List.append_nil]

/-- As many digits as there are make up the number. -/
lemma takeNumber?_append {ds : List Char} (hds : ∀ d ∈ ds, d.isDigit = true)
    (hleast : least ≤ ds.length) (hmost : ds.length ≤ most) (hrest : EndsDigits rest) :
    takeNumber? least most (ds ++ rest) = some (ofDigits ds, rest) := by
  rw [takeNumber?, takeWhile_isDigit hds hrest, List.take_of_length_le hmost,
    if_neg (Nat.not_lt.2 hleast), List.drop_left]
  rfl

lemma takeNumber?_padded (hwidth : 0 < width) (hn : n < 10 ^ width) (hleast : least ≤ width)
    (hmost : width ≤ most) (hrest : EndsDigits rest) :
    takeNumber? least most (Text.padded width n ++ rest) = some (n, rest) := by
  have hlength := Text.length_padded hwidth hn
  have htake : takeNumber? least most (Text.padded width n ++ rest) =
      some (ofDigits (Text.padded width n), rest) :=
    takeNumber?_append (Text.areDigits_padded width n).2 (by omega) (by omega) hrest
  rwa [Text.ofDigits_padded] at htake

/-- What is read as a number of few digits is small. -/
lemma lt_of_takeNumber? {cs : List Char} (h : takeNumber? least most cs = some (n, rest)) :
    n < 10 ^ most := by
  rw [takeNumber?] at h
  split at h
  · simp at h
  · obtain ⟨rfl, -⟩ := Prod.mk.inj (Option.some.inj h)
    have hdigits : ∀ d ∈ (cs.takeWhile Char.isDigit).take most, d.isDigit = true :=
      fun d hd => List.mem_takeWhile_imp (List.mem_of_mem_take hd)
    exact Nat.lt_of_lt_of_le (Text.ofDigits_lt hdigits)
      (Nat.pow_le_pow_right (by decide) (List.length_take_le _ _))

lemma takeChar?_cons (c : Char) (cs : List Char) : takeChar? c (c :: cs) = some cs :=
  if_pos rfl

/-! ## White space -/

lemma isSpace_of_isDigit {c : Char} (h : c.isDigit = true) : Text.isSpace c = false := by
  have hbounds := Char.isDigit_iff_toNat.1 h
  have hlow : '0'.toNat = 48 := rfl
  have hhigh : '9'.toNat = 57 := rfl
  simp only [Text.isSpace, Bool.or_eq_false_iff, Bool.and_eq_false_iff, decide_eq_false_iff_not,
    beq_eq_false_iff_ne]
  omega

lemma trimStart_cons {c : Char} (h : Text.isSpace c = false) (cs : List Char) :
    Text.trimStart (c :: cs) = c :: cs :=
  List.dropWhile_cons_of_neg (by simp [h])

lemma exists_padded_eq_cons (width n : Nat) :
    ∃ c cs, Text.padded width n = c :: cs ∧ c.isDigit = true := by
  obtain ⟨hne, hdigits⟩ := Text.areDigits_padded width n
  obtain ⟨c, cs, heq⟩ := List.exists_cons_of_ne_nil hne
  exact ⟨c, cs, heq, hdigits c (by simp [heq])⟩

lemma trimStart_padded (width n : Nat) (rest : List Char) :
    Text.trimStart (Text.padded width n ++ rest) = Text.padded width n ++ rest := by
  obtain ⟨c, cs, heq, hc⟩ := exists_padded_eq_cons width n
  rw [heq, List.cons_append, trimStart_cons (isSpace_of_isDigit hc)]

/-! ## Dates -/

lemma takeTwo?_padded (hn : n < 100) (hrest : EndsDigits rest) :
    takeTwo? (Text.padded 2 n ++ rest) = some (n, rest) := by
  rw [takeTwo?, trimStart_padded]
  exact takeNumber?_padded (by decide) hn (by decide) (by decide) hrest

/-- Signed years may have any number of digits. -/
lemma takeNumber?_year (n : Nat) (hrest : EndsDigits rest) :
    takeNumber? 1 (Text.padded 4 n ++ rest).length (Text.padded 4 n ++ rest) = some (n, rest) := by
  obtain ⟨hne, hdigits⟩ := Text.areDigits_padded 4 n
  have htake := takeNumber?_append hdigits (List.length_pos_iff.2 hne)
    (show _ ≤ (Text.padded 4 n ++ rest).length by simp) hrest
  rwa [Text.ofDigits_padded] at htake

lemma takeYear?_minus (cs : List Char) :
    takeYear? ('-' :: cs) = (takeNumber? 1 cs.length cs).map fun (n, cs) => (-(n : Int), cs) :=
  rfl

lemma takeYear?_plus (cs : List Char) :
    takeYear? ('+' :: cs) = (takeNumber? 1 cs.length cs).map fun (n, cs) => ((n : Int), cs) :=
  rfl

lemma takeYear?_yearText (year : Int) (hrest : EndsDigits rest) :
    takeYear? (yearText year ++ rest) = some (year, rest) := by
  rw [yearText]
  split
  · rename_i hyear
    have htake : takeNumber? 1 4 (Text.padded 4 year.toNat ++ rest) = some (year.toNat, rest) :=
      takeNumber?_padded (by decide) (by omega) (by decide) (by decide) hrest
    have htrim := trimStart_padded 4 year.toNat rest
    obtain ⟨c, cs, heq, hc⟩ := exists_padded_eq_cons 4 year.toNat
    rw [heq, List.cons_append] at htake htrim ⊢
    rw [takeYear?, htrim]
    split
    · rename_i hsign
      obtain ⟨rfl, -⟩ := List.cons.inj hsign
      exact absurd hc (by decide)
    · rename_i hsign
      obtain ⟨rfl, -⟩ := List.cons.inj hsign
      exact absurd hc (by decide)
    · simp [htake, Int.toNat_of_nonneg hyear.1]
  · -- The sign tells on which side of zero the year is.
    have htake := takeNumber?_year year.natAbs hrest
    split
    · rw [List.cons_append, takeYear?_minus, htake, Option.map_some]
      simp only [Option.some.injEq, Prod.mk.injEq, and_true]
      omega
    · rw [List.cons_append, takeYear?_plus, htake, Option.map_some]
      simp only [Option.some.injEq, Prod.mk.injEq, and_true]
      omega

lemma daysInMonth_le (year : Int) (month : Nat) : daysInMonth year month ≤ 31 := by
  rw [daysInMonth]
  split <;> split <;> omega

lemma month_lt (d : Date) : d.month < 100 := by
  have h := d.exists_day
  simp only [isDate, Bool.and_eq_true, decide_eq_true_eq] at h
  omega

lemma day_lt (d : Date) : d.day < 100 := by
  have h := d.exists_day
  have hle := daysInMonth_le d.year d.month
  simp only [isDate, Bool.and_eq_true, decide_eq_true_eq] at h
  omega

lemma of?_eq (d : Date) : of? d.year d.month d.day = some d :=
  dif_pos d.exists_day

lemma year_of_of? {year : Int} {month day : Nat} {d : Date} (h : of? year month day = some d) :
    d.year = year := by
  rw [of?] at h
  split at h
  · exact (Option.some.inj h) ▸ rfl
  · cases h

/-- **Dates are read back from their text**, whatever their year. -/
theorem read?_text (d : Date) : read? d.text = some d := by
  have hyear := takeYear?_yearText d.year
    (endsDigits_cons (c := '-') rfl (Text.padded 2 d.month ++ '-' :: Text.padded 2 d.day))
  have hmonth := takeTwo?_padded d.month_lt (endsDigits_cons (c := '-') rfl (Text.padded 2 d.day))
  have hday := takeTwo?_padded d.day_lt endsDigits_nil
  rw [List.append_nil] at hday
  simp [read?, text, hyear, hmonth, hday, takeChar?_cons, of?_eq]

end ApiContract.Date
