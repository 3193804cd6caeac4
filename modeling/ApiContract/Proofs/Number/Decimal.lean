/-
# Decimals

A decimal is read digit by digit.  As long as the number so far is in range it is the number that
the digits denote, and once it is out of range no further digit brings it back.  So a decimal is
read as what it denotes, or found to be above or below the range.
-/
import ApiContract.Number.Integer
import ApiContract.Number.Numeral
import ApiContract.Value.Text
import Mathlib.Tactic.Common
import Mathlib.Tactic.Lemma

namespace ApiContract.Number

/-! ## What decimals denote -/

/-- Some digits, at least one of them. -/
def AreDigits (cs : List Char) : Prop :=
  cs ≠ [] ∧ ∀ c ∈ cs, c.isDigit = true

/-- What a decimal denotes: digits without a sign, or after one. -/
inductive Denotes : List Char → Int → Prop
  | digits {cs : List Char} : AreDigits cs → Denotes cs (ofDigits cs)
  | plus {cs : List Char} : AreDigits cs → Denotes ('+' :: cs) (ofDigits cs)
  | minus {cs : List Char} : AreDigits cs → Denotes ('-' :: cs) (-ofDigits cs)

lemma areDigits_decimalDigits (n : Nat) : AreDigits (Text.decimalDigits n) :=
  ⟨Nat.toDigits_ne_nil, fun _ => Nat.isDigit_of_mem_toDigits (by decide) (by decide)⟩

lemma ofDigits_decimalDigits (n : Nat) : ofDigits (Text.decimalDigits n) = n :=
  Nat.ofDigitChars_ten_toDigits

/-- An integer is written as a decimal that denotes it. -/
lemma denotes_integerText (n : Int) : Denotes (Value.integerText n) n := by
  have hdigits := ofDigits_decimalDigits n.natAbs
  rw [Value.integerText]
  split
  · have hminus := Denotes.minus (areDigits_decimalDigits n.natAbs)
    rwa [hdigits, show -(n.natAbs : Int) = n by omega] at hminus
  · have hplain := Denotes.digits (areDigits_decimalDigits n.natAbs)
    rwa [hdigits, show (n.natAbs : Int) = n by omega] at hplain

/-- A decimal has nothing but digits and signs. -/
lemma Denotes.not_mem {cs : List Char} {n : Int} (h : Denotes cs n) {c : Char}
    (hdigit : c.isDigit = false) (hplus : c ≠ '+') (hminus : c ≠ '-') : c ∉ cs := by
  have hdigits {ds : List Char} (hds : AreDigits ds) : c ∉ ds := by
    intro hmem
    simp [hds.2 c hmem] at hdigit
  cases h with
  | digits hds => exact hdigits hds
  | plus hds => simp [hplus, hdigits hds]
  | minus hds => simp [hminus, hdigits hds]

/-! ## Reading digits -/

lemma digitBelow?_of_isDigit {c : Char} (h : c.isDigit = true) :
    Text.digitBelow? 10 c = some (c.toNat - '0'.toNat) := by
  have hbounds : '0' ≤ c ∧ c ≤ '9' := by
    rwa [Char.isDigit, Bool.and_eq_true, decide_eq_true_iff, decide_eq_true_iff] at h
  have hle : '0'.toNat ≤ c.toNat ∧ c.toNat ≤ '9'.toNat := Char.isDigit_iff_toNat.1 h
  have hlt : c.toNat - '0'.toNat < 10 := by
    rw [show '9'.toNat = '0'.toNat + 9 from rfl] at hle
    omega
  rw [Text.digitBelow?, Text.digit?, if_pos hbounds]
  simpa using hlt

/-- Further digits do not make a number less. -/
lemma le_ofDigitChars (ds : List Char) (a : Nat) : a ≤ Nat.ofDigitChars 10 ds a := by
  induction ds generalizing a with
  | nil => exact Nat.le_refl a
  | cons d ds ih =>
    rw [Nat.ofDigitChars_cons]
    exact Nat.le_trans (by omega) (ih _)

/-- Digits are read up to their number, seen as `toInt` shows it, if that is in range; if it is
not, then neither is what comes after. -/
lemma readDigits_eq {add : Int → Nat → Int} {fits : Int → Bool} {outside : IntegerFault}
    (toInt : Nat → Int) (hadd : ∀ a d, add (toInt a) d = toInt (10 * a + d))
    (hfits : ∀ a b, a ≤ b → fits (toInt b) = true → fits (toInt a) = true) {ds : List Char}
    (hdigits : ∀ d ∈ ds, d.isDigit = true) (a : Nat) (ha : fits (toInt a) = true) :
    readDigits 10 add fits outside (toInt a) ds =
      if fits (toInt (Nat.ofDigitChars 10 ds a)) then .ok (toInt (Nat.ofDigitChars 10 ds a))
      else .error outside := by
  induction ds generalizing a with
  | nil =>
    rw [Nat.ofDigitChars_nil, if_pos ha]
    rfl
  | cons d ds ih =>
    obtain ⟨hd, hdigits⟩ := List.forall_mem_cons.1 hdigits
    rw [readDigits, digitBelow?_of_isDigit hd, Nat.ofDigitChars_cons]
    dsimp only
    rw [hadd]
    by_cases hnext : fits (toInt (10 * a + (d.toNat - '0'.toNat))) = true
    · rw [if_pos hnext, ih hdigits _ hnext]
    · rw [if_neg hnext, if_neg fun hlast => hnext (hfits _ _ (le_ofDigitChars ds _) hlast)]

/-! ## Reading decimals -/

variable {least greatest : Int} {cs : List Char}

/-- Digits after a plus sign, or without a sign, are read up to the upper end of the range. -/
lemma readDigits_up (hgreatest : 0 ≤ greatest) (h : AreDigits cs) :
    readDigits 10 (fun n d => n * (10 : Nat) + d) (· ≤ greatest) .tooLarge 0 cs =
      if greatest < ofDigits cs then .error .tooLarge else .ok (ofDigits cs : Int) := by
  refine (readDigits_eq Int.ofNat (fun a d => ?_) (fun a b hab hb => ?_) h.2 0
    (by simpa using hgreatest)).trans ?_
  · simp only [Int.ofNat_eq_natCast]
    omega
  · simp only [Int.ofNat_eq_natCast, decide_eq_true_eq] at *
    omega
  · change (if decide ((ofDigits cs : Int) ≤ greatest) = true then _ else _) = _
    by_cases hlarge : greatest < ofDigits cs
    · rw [if_pos hlarge, if_neg (by simpa using hlarge)]
    · rw [if_neg hlarge, if_pos (by simpa using hlarge)]
      rfl

/-- Digits after a minus sign are read down to the lower end of the range. -/
lemma readDigits_down (hleast : least ≤ 0) (h : AreDigits cs) :
    readDigits 10 (fun n d => n * (10 : Nat) - d) (least ≤ ·) .tooSmall 0 cs =
      if -ofDigits cs < least then .error .tooSmall else .ok (-ofDigits cs : Int) := by
  refine (readDigits_eq (fun a => -(a : Int)) (fun a d => ?_) (fun a b hab hb => ?_) h.2 0
    (by simpa using hleast)).trans ?_
  · push_cast
    omega
  · simp only [decide_eq_true_eq] at *
    omega
  · change (if decide (least ≤ -(ofDigits cs : Int)) = true then _ else _) = _
    by_cases hsmall : -(ofDigits cs : Int) < least
    · rw [if_pos hsmall, if_neg (by simpa using hsmall)]
    · rw [if_neg hsmall, if_pos (by simpa using hsmall)]
      rfl

/-- A text without a sign is read upwards, whether or not the range has negative numbers. -/
lemma readInteger_of_unsigned {c : Char} {ds : List Char} (hplus : c ≠ '+') (hminus : c ≠ '-') :
    readInteger 10 least greatest (c :: ds) =
      readDigits 10 (fun n d => n * (10 : Nat) + d) (· ≤ greatest) .tooLarge 0 (c :: ds) := by
  simp [readInteger, hplus, hminus]

lemma readInteger_digits (h : AreDigits cs) :
    readInteger 10 least greatest cs =
      readDigits 10 (fun n d => n * (10 : Nat) + d) (· ≤ greatest) .tooLarge 0 cs := by
  obtain ⟨c, ds, rfl⟩ := List.exists_cons_of_ne_nil h.1
  have hc : c.isDigit = true := h.2 c List.mem_cons_self
  refine readInteger_of_unsigned ?_ ?_
  · rintro rfl
    exact absurd hc (by decide)
  · rintro rfl
    exact absurd hc (by decide)

/-- An unsigned number of 64 bits is read from its digits. -/
lemma readUnsigned64?_decimalDigits {n : Nat} (h : n ≤ greatestUnsigned64) :
    readUnsigned64? (Text.decimalDigits n) = some n := by
  have hdigits := areDigits_decimalDigits n
  have hfits : ¬ greatestUnsigned64 < (ofDigits (Text.decimalDigits n) : Int) := by
    rw [ofDigits_decimalDigits]
    omega
  rw [readUnsigned64?, readInteger_digits hdigits, readDigits_up (by decide) hdigits,
    if_neg hfits, ofDigits_decimalDigits]
  rfl

/-- **Decimals are read exactly.**  In a range around zero a decimal is read as what it denotes, or
it is found to be below or above the range. -/
theorem readInteger_of_denotes {n : Int} (hleast : least < 0) (hgreatest : 0 ≤ greatest)
    (h : Denotes cs n) :
    readInteger 10 least greatest cs =
      if n < least then .error .tooSmall
      else if greatest < n then .error .tooLarge
      else .ok n := by
  have hup {ds : List Char} (hds : AreDigits ds) :
      readDigits 10 (fun n d => n * (10 : Nat) + d) (· ≤ greatest) .tooLarge 0 ds =
        if (ofDigits ds : Int) < least then .error .tooSmall
        else if greatest < ofDigits ds then .error .tooLarge
        else .ok (ofDigits ds : Int) := by
    have hnot : ¬ (ofDigits ds : Int) < least := by omega
    rw [readDigits_up hgreatest hds, if_neg hnot]
  cases h with
  | digits hds => rw [← hup hds, readInteger_digits hds]
  | @plus ds hds =>
    obtain ⟨c, ds, rfl⟩ := List.exists_cons_of_ne_nil hds.1
    rw [← hup hds]
    simp [readInteger]
  | @minus ds hds =>
    have hnot : ¬ greatest < -(ofDigits ds : Int) := by omega
    rw [if_neg hnot, ← readDigits_down (by omega) hds]
    obtain ⟨c, ds, rfl⟩ := List.exists_cons_of_ne_nil hds.1
    simp [readInteger, hleast]

/-! ## What is read is a decimal -/

lemma isDigit_of_digitBelow? {c : Char} {d : Nat} (h : Text.digitBelow? 10 c = some d) :
    c.isDigit = true := by
  obtain ⟨hdigit, hlt⟩ := Option.filter_eq_some_iff.1 h
  have hlt : d < 10 := by simpa using hlt
  unfold Text.digit? at hdigit
  split at hdigit
  · rename_i hbounds
    rw [Char.isDigit, Bool.and_eq_true, decide_eq_true_iff, decide_eq_true_iff]
    exact hbounds
  · -- Letters stand for ten and more.
    split at hdigit
    · obtain rfl := Option.some.inj hdigit
      omega
    · split at hdigit
      · obtain rfl := Option.some.inj hdigit
        omega
      · simp at hdigit

lemma isDigit_of_readDigits {add : Int → Nat → Int} {fits : Int → Bool} {outside : IntegerFault}
    {n m : Int} (h : readDigits 10 add fits outside n cs = .ok m) : ∀ c ∈ cs, c.isDigit = true := by
  induction cs generalizing n with
  | nil => simp
  | cons c cs ih =>
    rw [readDigits] at h
    split at h
    · cases h
    · rename_i d hd
      split at h
      · exact List.forall_mem_cons.2 ⟨isDigit_of_digitBelow? hd, ih h⟩
      · cases h

/-- **What is read is a decimal**, and it is read as what it denotes. -/
theorem denotes_of_readInteger {n : Int} (hleast : least < 0) (hgreatest : 0 ≤ greatest)
    (h : readInteger 10 least greatest cs = .ok n) : Denotes cs n := by
  have hdecimal : ∃ m, Denotes cs m := by
    cases cs with
    | nil => cases h
    | cons c ds =>
      by_cases hplus : c = '+'
      · subst hplus
        cases ds with
        | nil => cases h
        | cons d ds =>
          simp only [readInteger] at h
          exact ⟨_, .plus ⟨by simp, isDigit_of_readDigits h⟩⟩
      by_cases hminus : c = '-'
      · subst hminus
        cases ds with
        | nil => cases h
        | cons d ds =>
          simp only [readInteger, if_pos hleast] at h
          exact ⟨_, .minus ⟨by simp, isDigit_of_readDigits h⟩⟩
      · rw [readInteger_of_unsigned hplus hminus] at h
        exact ⟨_, .digits ⟨by simp, isDigit_of_readDigits h⟩⟩
  obtain ⟨m, hm⟩ := hdecimal
  rw [readInteger_of_denotes hleast hgreatest hm] at h
  split at h
  · cases h
  · split at h
    · cases h
    · obtain rfl := Except.ok.inj h
      exact hm

/-- An unsigned number of 16 bits is read from digits, or from digits after a plus sign. -/
lemma readUnsigned16?_eq_some_iff {n : Nat} :
    readUnsigned16? cs = some n ↔
      ∃ ds, (cs = ds ∨ cs = '+' :: ds) ∧ AreDigits ds ∧ ofDigits ds = n ∧ n ≤ 65535 := by
  have hup {ds : List Char} (hds : AreDigits ds) (m : Int) :
      readDigits 10 (fun n d => n * (10 : Nat) + d) (· ≤ 65535) .tooLarge 0 ds = .ok m ↔
        m = ofDigits ds ∧ ofDigits ds ≤ 65535 := by
    rw [readDigits_up (by decide) hds]
    split <;> simp <;> omega
  have hread : (∃ m, readInteger 10 0 65535 cs = .ok m ∧ m.toNat = n) ↔
      readUnsigned16? cs = some n := by
    rw [readUnsigned16?]
    split <;> simp [*]
  rw [← hread]
  constructor
  · rintro ⟨m, hm, hn⟩
    cases cs with
    | nil => cases hm
    | cons c ds =>
      by_cases hplus : c = '+'
      · subst hplus
        cases ds with
        | nil => cases hm
        | cons d ds =>
          simp only [readInteger] at hm
          have hds : AreDigits (d :: ds) := ⟨by simp, isDigit_of_readDigits hm⟩
          obtain ⟨rfl, hle⟩ := (hup hds m).1 hm
          exact ⟨_, Or.inr rfl, hds, hn, by omega⟩
      by_cases hminus : c = '-'
      · -- The range has no negative numbers.
        subst hminus
        cases ds <;> cases hm
      · rw [readInteger_of_unsigned hplus hminus] at hm
        have hds : AreDigits (c :: ds) := ⟨by simp, isDigit_of_readDigits hm⟩
        obtain ⟨rfl, hle⟩ := (hup hds m).1 hm
        exact ⟨_, Or.inl rfl, hds, hn, by omega⟩
  · rintro ⟨ds, hcs, hds, rfl, hle⟩
    refine ⟨ofDigits ds, ?_, by simp⟩
    rcases hcs with rfl | rfl
    · rw [readInteger_digits hds]
      exact (hup hds _).2 ⟨rfl, hle⟩
    · obtain ⟨c, ds, rfl⟩ := List.exists_cons_of_ne_nil hds.1
      simpa [readInteger] using (hup hds _).2 ⟨rfl, hle⟩

end ApiContract.Number
