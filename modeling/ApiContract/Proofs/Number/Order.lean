/-
# The order of doubles

Two doubles compare unless one of them is no number in truth.  What is read from digits is always a
number, and so is every integer; only the word `nan` gives a double that is none.
-/
import ApiContract.Number.Numeral
import ApiContract.Schema.Constraint
import Mathlib

namespace ApiContract.Number

open Float.Model (UnpackedFloat Format)
open Float.Model.UnpackedFloat (notANumber unpack pack)

/-! ## Bit patterns -/

lemma unpack_eq_notANumber {spec : Format} {b : BitVec spec.numBits}
    (h : unpack spec b = .notANumber) :
    UnpackedFloat.unpackExponent b = -1#_ ∧ UnpackedFloat.unpackMantissa b ≠ 0#_ := by
  unfold unpack at h
  dsimp only at h
  split_ifs at h with hexponent hmantissa
  exact ⟨hexponent, hmantissa⟩

/-- A number is packed as a number. -/
lemma unpack_pack_ne_notANumber {u : UnpackedFloat} (h : u ≠ .notANumber) :
    unpack .binary64 (pack .binary64 u) ≠ .notANumber := by
  intro hunpack
  obtain ⟨hexponent, hmantissa⟩ := unpack_eq_notANumber hunpack
  revert hexponent hmantissa
  fun_cases pack with
  | case1 => exact absurd rfl h
  | case2 s => simp [UnpackedFloat.packedInfinity]
  | case3 s =>
    rw [UnpackedFloat.packedZero, UnpackedFloat.unpackExponent_packComponents]
    intro hexponent
    exact absurd hexponent (by decide)
  | case4 s m e hm biased hoverflow => simp [UnpackedFloat.packedInfinity]
  | case5 s m e hm bits biased hoverflow hnormal =>
    -- An exponent with all bits set would have been too large.
    rw [UnpackedFloat.unpackExponent_packComponents]
    intro hexponent
    have hall : biased % 2 ^ 11 = 2 ^ 11 - 1 := congrArg BitVec.toNat hexponent
    have hsmall : ¬ 2 ^ 11 ≤ biased + 1 := hoverflow
    rw [Nat.mod_eq_of_lt (by omega)] at hall
    omega
  | case6 s m e hm bits biased hoverflow hnormal =>
    rw [UnpackedFloat.unpackExponent_packComponents]
    intro hexponent
    exact absurd hexponent (by decide)

/-! ## Arithmetic -/

lemma roundWithAccuracy_ne_notANumber (spec : Format) (s : Float.Model.UnpackedFloat.Sign) (m : Nat)
    (e : Int) (accuracy : UnpackedFloat.Accuracy) :
    UnpackedFloat.roundWithAccuracy spec s m e accuracy ≠ .notANumber := by
  unfold UnpackedFloat.roundWithAccuracy
  dsimp only
  split_ifs <;> simp

lemma normalize_ne_notANumber (spec : Format) (m e : Int) (s : Float.Model.UnpackedFloat.Sign) :
    UnpackedFloat.normalize spec m e s ≠ .notANumber := by
  unfold UnpackedFloat.normalize
  split
  · exact roundWithAccuracy_ne_notANumber _ _ _ _ _
  · simp
  · exact roundWithAccuracy_ne_notANumber _ _ _ _ _

/-- The number is finite and not zero. -/
def isProper : UnpackedFloat → Bool
  | .finite .. => true
  | _ => false

lemma mul_proper_ne_notANumber (spec : Format) {u w : UnpackedFloat} (hu : u ≠ .notANumber)
    (hw : isProper w = true) : UnpackedFloat.mul spec u w ≠ .notANumber := by
  cases w with
  | infinity | notANumber | zero => cases hw
  | finite =>
    cases u with
    | notANumber => exact absurd rfl hu
    | infinity | zero => simp [UnpackedFloat.mul]
    | finite => exact roundWithAccuracy_ne_notANumber _ _ _ _ _

lemma div_proper_ne_notANumber (spec : Format) {u w : UnpackedFloat} (hu : u ≠ .notANumber)
    (hw : isProper w = true) : UnpackedFloat.div spec u w ≠ .notANumber := by
  cases w with
  | infinity | notANumber | zero => cases hw
  | finite =>
    cases u with
    | notANumber => exact absurd rfl hu
    | infinity | zero => simp [UnpackedFloat.div]
    | finite => exact roundWithAccuracy_ne_notANumber _ _ _ _ _

/-! ## Doubles that are numbers -/

/-- A double is a number in truth. -/
def IsNumber (x : Float) : Prop :=
  x.toModel.unpack ≠ .notANumber

lemma isNumber_iff {x : Float} : IsNumber x ↔ x.isNaN = false := by
  change x.toModel.unpack ≠ .notANumber ↔ x.toModel.unpack.isNaN = false
  rw [Ne, ← UnpackedFloat.isNaN_iff, Bool.not_eq_true]

lemma isNumber_ofModel_pack {u : UnpackedFloat} (h : u ≠ .notANumber) :
    IsNumber (.ofModel (.pack u)) :=
  unpack_pack_ne_notANumber h

lemma isNumber_toFloat (n : UInt64) : IsNumber n.toFloat :=
  isNumber_ofModel_pack (normalize_ne_notANumber _ _ _ _)

/-- The powers of ten that are doubles are finite and not zero. -/
lemma isProper_power : ∀ e : Fin 23,
    isProper (Float.exactlyRepresentablePowersOfTen[e]).toModel.unpack = true := by
  decide

lemma unpacked_ofScientific_ne_notANumber (spec : Format) (m : Nat) (e : Int) :
    UnpackedFloat.ofScientific spec m e ≠ .notANumber := by
  unfold UnpackedFloat.ofScientific
  split_ifs
  · simp
  · simp
  · simp
  · exact mul_proper_ne_notANumber _ (by simp) rfl
  · exact div_proper_ne_notANumber _ (by simp) rfl

/-- Decimals are numbers. -/
lemma isNumber_ofScientific (m : Nat) (s : Bool) (e : Nat) : IsNumber (.ofScientific m s e) := by
  unfold Float.ofScientific
  split
  · rename_i hfast
    have hpower := isProper_power ⟨e, by omega⟩
    dsimp only
    split
    · exact isNumber_ofModel_pack (div_proper_ne_notANumber _ (isNumber_toFloat _) hpower)
    · exact isNumber_ofModel_pack (mul_proper_ne_notANumber _ (isNumber_toFloat _) hpower)
  · exact isNumber_ofModel_pack (unpacked_ofScientific_ne_notANumber _ _ _)

lemma isNumber_withSign {x : Float} (negative : Bool) :
    IsNumber (withSign negative x) ↔ IsNumber x := by
  cases negative with
  | false => rfl
  | true =>
    constructor
    · intro h hx
      refine h ?_
      change unpack .binary64 (pack .binary64 x.toModel.unpack.neg) = .notANumber
      rw [hx]
      rfl
    · intro h
      refine isNumber_ofModel_pack fun hneg => h ?_
      revert hneg
      cases x.toModel.unpack <;> simp [UnpackedFloat.neg]

/-- Integers are numbers. -/
lemma isNumber_ofInteger (n : Int) : IsNumber (ofInteger n) :=
  (isNumber_withSign _).2 (isNumber_ofScientific _ _ _)

lemma isNumber_ofDecimal (n : Nat) (e : Int) : IsNumber (ofDecimal n e) := by
  unfold ofDecimal
  dsimp only
  split_ifs
  · exact isNumber_iff.2 rfl
  · exact isNumber_iff.2 (by decide)
  · exact isNumber_iff.2 rfl
  · exact isNumber_ofScientific _ _ _

/-! ## Comparing -/

lemma unpacked_compare_eq_none_iff {u w : UnpackedFloat} :
    u.compare w = none ↔ u = .notANumber ∨ w = .notANumber := by
  fun_cases UnpackedFloat.compare u w <;> simp_all

lemma unpacked_compare_swap (u w : UnpackedFloat) :
    w.compare u = (u.compare w).map Ordering.swap := by
  have hfinite (m m' : Nat) (e e' : Int) :
      (compare e' e).then (compare m' m) = ((compare e e').then (compare m m')).swap := by
    rw [Ordering.swap_then, ← Std.OrientedCmp.eq_swap, ← Std.OrientedCmp.eq_swap]
  rcases u with ⟨_ | _⟩ | _ | ⟨_ | _⟩ | ⟨_ | _, m, e, hm⟩ <;>
    rcases w with ⟨_ | _⟩ | _ | ⟨_ | _⟩ | ⟨_ | _, m', e', hm'⟩ <;>
    first | rfl | simp [UnpackedFloat.compare, hfinite m m' e e']

lemma lt_iff {x y : Float} :
    x < y ↔ x.toModel.unpack.compare y.toModel.unpack = some .lt := by
  change decide (x.toModel < y.toModel) = true ↔ _
  rw [decide_eq_true_iff]
  exact beq_iff_eq

lemma beq_iff {x y : Float} :
    (x == y) = true ↔ x.toModel.unpack.compare y.toModel.unpack = some .eq := by
  change (x.toModel.unpack.compare y.toModel.unpack == some .eq) = true ↔ _
  exact beq_iff_eq

/-! ## Reading -/

/-- The word for what is no number, in any case. -/
def IsNaNWord (cs : List Char) : Prop :=
  cs.map Char.toLower = ['n', 'a', 'n']

/-- A text is the word for what is no number, perhaps with a sign before it. -/
def SpellsNaN (cs : List Char) : Prop :=
  IsNaNWord cs ∨ ∃ word, (cs = '+' :: word ∨ cs = '-' :: word) ∧ IsNaNWord word

instance (cs : List Char) : Decidable (IsNaNWord cs) :=
  inferInstanceAs (Decidable (_ = _))

instance (cs : List Char) : Decidable (SpellsNaN cs) :=
  decidable_of_iff
    (IsNaNWord cs ∨ (cs.head? = some '+' ∨ cs.head? = some '-') ∧ IsNaNWord cs.tail) <|
    or_congr_right (by cases cs <;> simp [or_and_right, exists_or])

lemma isNumber_of_magnitude? {cs : List Char} {x : Float} (h : magnitude? cs = some x) :
    IsNumber x := by
  unfold magnitude? at h
  dsimp only at h
  split_ifs at h
  split at h
  · obtain rfl := Option.some.inj h
    exact isNumber_ofDecimal _ _
  · split_ifs at h
    obtain ⟨e, -, rfl⟩ := Option.map_eq_some_iff.1 h
    exact isNumber_ofDecimal _ _

lemma toLower_of_isDigit {c : Char} (h : c.isDigit = true) : c.toLower = c := by
  unfold Char.toLower
  refine dif_neg fun hupper => ?_
  have hle : c.val ≤ '9'.val := by
    rw [Char.isDigit, Bool.and_eq_true, decide_eq_true_iff, decide_eq_true_iff] at h
    exact h.2
  exact absurd (UInt32.le_trans hupper.1 hle) (by decide)

/-- A word is no numeral of digits. -/
lemma magnitude?_of_isNaNWord {cs : List Char} (h : IsNaNWord cs) : magnitude? cs = none := by
  obtain ⟨c, cs, rfl, hc, -⟩ := List.map_eq_cons_iff.1 h
  have hdigit : c.isDigit = false := by
    by_contra hdigit
    rw [Bool.not_eq_false] at hdigit
    rw [toLower_of_isDigit hdigit] at hc
    subst hc
    exact absurd hdigit (by decide)
  have hpoint : c ≠ '.' := by
    rintro rfl
    exact absurd hc (by decide)
  have hwhole : (c :: cs).takeWhile Char.isDigit = [] :=
    List.takeWhile_cons_of_neg (by simp [hdigit])
  have hrest : (c :: cs).dropWhile Char.isDigit = c :: cs :=
    List.dropWhile_cons_of_neg (by simp [hdigit])
  unfold magnitude?
  simp only [hwhole, hrest]
  split
  · rename_i heq
    exact absurd (List.cons.inj heq).1 hpoint
  · simp

lemma isNumber_or_word_iff {cs : List Char} {x : Float}
    (h : (magnitude? cs).or (word? cs) = some x) : IsNumber x ↔ ¬ IsNaNWord cs := by
  have hword : IsNaNWord cs ↔ String.ofList (cs.map Char.toLower) = "nan" := by
    rw [IsNaNWord, ← String.toList_inj, String.toList_ofList]
    rfl
  cases hmagnitude : magnitude? cs with
  | some y =>
    have hnot : ¬ IsNaNWord cs := fun hnan => by
      rw [magnitude?_of_isNaNWord hnan] at hmagnitude
      cases hmagnitude
    rw [hmagnitude] at h
    obtain rfl := Option.some.inj h
    exact iff_of_true (isNumber_of_magnitude? hmagnitude) hnot
  | none =>
    rw [hmagnitude, Option.none_or] at h
    unfold word? at h
    dsimp only at h
    split_ifs at h with hnan hinfinity
    · obtain rfl := Option.some.inj h
      refine iff_of_false (fun hnumber => ?_) (not_not.2 (hword.2 hnan))
      have hfalse := isNumber_iff.1 hnumber
      exact absurd hfalse (by decide)
    · obtain rfl := Option.some.inj h
      exact iff_of_true (isNumber_iff.2 (by decide)) fun h => hnan (hword.1 h)

lemma not_isNaNWord_cons {c : Char} (hc : c.toLower ≠ 'n') (cs : List Char) :
    ¬ IsNaNWord (c :: cs) :=
  fun h => hc (List.cons.inj h).1

lemma spellsNaN_cons_iff {c : Char} (hc : c = '+' ∨ c = '-') (cs : List Char) :
    SpellsNaN (c :: cs) ↔ IsNaNWord cs := by
  have hlower : c.toLower ≠ 'n' := by
    rcases hc with rfl | rfl <;> decide
  rw [SpellsNaN, or_iff_right (not_isNaNWord_cons hlower cs)]
  rcases hc with rfl | rfl <;> simp

lemma spellsNaN_iff_of_unsigned {cs : List Char} (hplus : ∀ word, cs ≠ '+' :: word)
    (hminus : ∀ word, cs ≠ '-' :: word) : SpellsNaN cs ↔ IsNaNWord cs := by
  rw [SpellsNaN, or_iff_left]
  rintro ⟨word, hword | hword, -⟩
  · exact hplus word hword
  · exact hminus word hword

/-- A double that is read is a number unless the text spells the word for what is none. -/
theorem isNumber_of_readDouble_iff {cs : List Char} {x : Float} (h : readDouble cs = .ok x) :
    IsNumber x ↔ ¬ SpellsNaN cs := by
  have hsigned (negative : Bool) {word : List Char} (hword : SpellsNaN cs ↔ IsNaNWord word)
      {y : Float} (hread : (magnitude? word).or (word? word) = some y) :
      IsNumber (withSign negative y) ↔ ¬ SpellsNaN cs := by
    rw [isNumber_withSign, isNumber_or_word_iff hread, hword]
  unfold readDouble at h
  dsimp only at h
  -- The text is empty, has one of the two signs, or has none.
  split at h
  · cases h
  · split at h
    · rename_i hread
      obtain rfl := Except.ok.inj h
      exact hsigned false (spellsNaN_cons_iff (Or.inl rfl) _) hread
    · cases h
  · split at h
    · rename_i hread
      obtain rfl := Except.ok.inj h
      exact hsigned true (spellsNaN_cons_iff (Or.inr rfl) _) hread
    · cases h
  · rename_i hplus hminus
    split at h
    · rename_i hread
      obtain rfl := Except.ok.inj h
      exact hsigned false (spellsNaN_iff_of_unsigned hplus hminus) hread
    · cases h

end ApiContract.Number

namespace ApiContract.Constraint

open Number

/-- Where one of two numbers is a double, they compare as doubles do. -/
lemma compare?_number {x y : Float} {b : Value} (hb : b.number? = some y) :
    compare? (.number x) b = x.toModel.unpack.compare y.toModel.unpack := by
  have hunfold : compare? (.number x) b =
      if x < y then some .lt else if x == y then some .eq
      else if y < x then some .gt else none := by
    have hx : (Value.number x).number? = some x := rfl
    simp only [compare?, hx, hb, Option.bind_some, bind]
  rw [hunfold]
  simp only [lt_iff, beq_iff, unpacked_compare_swap x.toModel.unpack y.toModel.unpack]
  rcases x.toModel.unpack.compare y.toModel.unpack with _ | _ | _ | _ <;> rfl

/-- A double compares to a number if it is a number itself. -/
lemma compare?_eq_none_iff {x : Float} {b : Value} (hb : ∃ y, b.number? = some y ∧ IsNumber y) :
    compare? (.number x) b = none ↔ ¬ IsNumber x := by
  obtain ⟨y, hb, hy⟩ := hb
  rw [compare?_number hb, unpacked_compare_eq_none_iff, or_iff_left hy, IsNumber, not_not]

end ApiContract.Constraint
