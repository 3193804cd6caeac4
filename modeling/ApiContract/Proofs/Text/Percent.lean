/-
# Percent encoding there and back

What is encoded comes back when it is decoded, and so does a text in which some characters are
encoded and others are not, as long as percent signs are.  Forms decode what they encode, too.
Decoding a second time, as a text of a form, leaves a text as it is exactly if it is plain: it has
no plus, and no percent sign with two digits behind it.
-/
import ApiContract.Proofs.Text.Pieces
import ApiContract.Proofs.Text.Utf8
import ApiContract.Text.Percent
import Mathlib.Data.List.Infix

namespace ApiContract.Percent

/-! ## Single bytes and characters -/

lemma digit?_digit {n : Nat} (h : n < 16) : Text.digit? (digit n) = some n := by
  revert n
  decide

lemma bytes_encodeByte (b : UInt8) (cs : List Char) :
    bytes (encodeByte b ++ cs) = b :: bytes cs := by
  have hb : b.toNat < 256 := b.toNat_lt
  simp only [encodeByte, List.cons_append, List.nil_append]
  rw [bytes, digit?_digit (by omega), digit?_digit (by omega)]
  simp only [show 16 * (b.toNat / 16) + b.toNat % 16 = b.toNat by omega, UInt8.ofNat_toNat]

lemma bytes_encodeBytes (bs : List UInt8) (cs : List Char) :
    bytes (bs.flatMap encodeByte ++ cs) = bs ++ bytes cs := by
  induction bs with
  | nil => rfl
  | cons b bs ih =>
    rw [List.flatMap_cons, List.append_assoc, bytes_encodeByte, ih]
    rfl

lemma bytes_cons {c : Char} (hc : c ≠ '%') (cs : List Char) :
    bytes (c :: cs) = String.utf8EncodeChar c ++ bytes cs := by
  rw [bytes]
  exact fun _ _ _ h => absurd h hc

/-- What is neither a percent sign nor a digit comes into an encoded text only by being kept. -/
lemma not_mem_encodeExcept {d : Char} (hdigit : Text.digit? d = none) (hpercent : d ≠ '%')
    {keep : Char → Bool} {cs : List Char} (h : keep d = false ∨ d ∉ cs) :
    d ∉ encodeExcept keep cs := by
  have hdigits {n : Nat} (hn : n < 16) : d ≠ digit n := by
    rintro rfl
    simp [digit?_digit hn] at hdigit
  intro hmem
  obtain ⟨c, hcs, hc⟩ := List.mem_flatMap.1 hmem
  split at hc
  · rename_i hkept
    obtain rfl := List.mem_singleton.1 hc
    rcases h with hkeep | hnot
    · simp [hkeep] at hkept
    · exact hnot hcs
  · obtain ⟨b, -, hb⟩ := List.mem_flatMap.1 hc
    have hlt : b.toNat < 256 := b.toNat_lt
    simp only [encodeByte, List.mem_cons, List.not_mem_nil, or_false] at hb
    rcases hb with hb | hb | hb
    · exact hpercent hb
    · exact hdigits (by omega) hb
    · exact hdigits (by omega) hb

/-- Writing spaces for the pluses of a text leaves it as it is exactly if there are none. -/
lemma map_plus_eq_self_iff {cs : List Char} :
    cs.map (fun c => if c = '+' then ' ' else c) = cs ↔ '+' ∉ cs := by
  induction cs with
  | nil => simp
  | cons c cs ih =>
    rw [List.map_cons, List.cons.injEq, ih, List.mem_cons, not_or]
    refine and_congr_left fun _ => ⟨?_, fun h => if_neg (Ne.symm h)⟩
    rintro h rfl
    exact absurd h (by decide)

/-! ## Spellings -/

/-- A text spells another one: characters stand for themselves, percent signs apart, or are
encoded. -/
inductive Spells : List Char → List Char → Prop
  | nil : Spells [] []
  | plain {c : Char} {text cs : List Char} :
      c ≠ '%' → Spells text cs → Spells (c :: text) (c :: cs)
  | encoded (c : Char) {text cs : List Char} :
      Spells text cs → Spells ((String.utf8EncodeChar c).flatMap encodeByte ++ text) (c :: cs)

namespace Spells

variable {text cs : List Char}

lemma append {text' cs' : List Char} (h : Spells text cs) (h' : Spells text' cs') :
    Spells (text ++ text') (cs ++ cs') := by
  induction h with
  | nil => exact h'
  | plain hc _ ih => exact .plain hc ih
  | encoded c _ ih =>
    rw [List.append_assoc]
    exact .encoded c ih

lemma join {sep : Char} (hsep : sep ≠ '%') {texts pieces : List (List Char)}
    (h : List.Forall₂ Spells texts pieces) :
    Spells (Text.join sep texts) (Text.join sep pieces) := by
  induction h with
  | nil => exact .nil
  | cons hpiece hrest ih =>
    cases hrest with
    | nil => exact hpiece
    | cons => exact hpiece.append (.plain hsep ih)

/-- The bytes of a text are those of what it spells. -/
lemma bytes_eq (h : Spells text cs) : bytes text = Utf8.encode cs := by
  induction h with
  | nil => rfl
  | plain hc _ ih =>
    rw [bytes_cons hc, ih]
    rfl
  | encoded c _ ih =>
    rw [bytes_encodeBytes, ih]
    rfl

/-- A text is decoded to what it spells. -/
lemma decode?_eq (h : Spells text cs) : decode? text = some cs := by
  rw [decode?, h.bytes_eq, Utf8.decode?_encode]

/-- A text without a plus is decoded to what it spells in forms too. -/
lemma decodeForm_eq (h : Spells text cs) (hplus : '+' ∉ text) : decodeForm text = cs := by
  rw [decodeForm, map_plus_eq_self_iff.2 hplus, h.bytes_eq, Utf8.decodeLossy_encode]

end Spells

lemma spells_encodeExcept {keep : Char → Bool} (hkeep : keep '%' = false) (cs : List Char) :
    Spells (encodeExcept keep cs) cs := by
  induction cs with
  | nil => exact .nil
  | cons c cs ih =>
    rw [encodeExcept, List.flatMap_cons]
    split
    · rename_i hc
      refine .plain ?_ ih
      rintro rfl
      simp [hkeep] at hc
    · exact .encoded c ih

/-- What is encoded is a spelling. -/
lemma spells_encode (cs : List Char) : Spells (encode cs) cs :=
  spells_encodeExcept (by decide) cs

lemma not_mem_encode {d : Char} (hdigit : Text.digit? d = none) (hpercent : d ≠ '%')
    (hreserved : isUnreserved d = false) (cs : List Char) : d ∉ encode cs :=
  not_mem_encodeExcept hdigit hpercent (Or.inl hreserved)

/-! ## Encoding for forms -/

/-- The characters that stand for themselves in a form: letters, digits and `*`, `-`, `.`, `_`. -/
def standsInForm (c : Char) : Bool :=
  c.isAlphanum || c == '*' || c == '-' || c == '.' || c == '_'

/-- A text as forms encode it: a plus for a space, and all other characters that do not stand for
themselves byte by byte. -/
def encodeForm (cs : List Char) : List Char :=
  (encodeExcept (fun c => standsInForm c || c == ' ') cs).map fun c => if c = ' ' then '+' else c

lemma not_mem_encodeForm {d : Char} (hdigit : Text.digit? d = none) (hpercent : d ≠ '%')
    (hspace : d ≠ ' ') (hplus : d ≠ '+') (hstands : standsInForm d = false) (cs : List Char) :
    d ∉ encodeForm cs := by
  intro hmem
  obtain ⟨c, hc, hcd⟩ := List.mem_map.1 hmem
  split at hcd
  · exact hplus hcd.symm
  · subst hcd
    exact not_mem_encodeExcept hdigit hpercent (Or.inl (by simp [hstands, hspace])) hc

/-- A text spells another one in a form: a plus stands for a space, and all else is as in other
spellings. -/
def FormSpells (text cs : List Char) : Prop :=
  Spells (text.map fun c => if c = '+' then ' ' else c) cs

/-- A form decodes a text to what it spells. -/
lemma FormSpells.decodeForm_eq {text cs : List Char} (h : FormSpells text cs) :
    decodeForm text = cs := by
  rw [decodeForm, Spells.bytes_eq h, Utf8.decodeLossy_encode]

lemma FormSpells.append {text cs text' cs' : List Char} (h : FormSpells text cs)
    (h' : FormSpells text' cs') : FormSpells (text ++ text') (cs ++ cs') := by
  rw [FormSpells, List.map_append]
  exact Spells.append h h'

/-- A character other than a percent sign and a plus may stand for itself. -/
lemma FormSpells.plain {c : Char} (hpercent : c ≠ '%') (hplus : c ≠ '+') : FormSpells [c] [c] := by
  rw [FormSpells, List.map_singleton, if_neg hplus]
  exact .plain hpercent .nil

/-- What a form encodes is a spelling. -/
lemma formSpells_encodeForm (cs : List Char) : FormSpells (encodeForm cs) cs := by
  have hplus : '+' ∉ encodeExcept (fun c => standsInForm c || c == ' ') cs :=
    not_mem_encodeExcept (by decide) (by decide) (Or.inl (by decide))
  -- No plus is written but for a space, so reading pluses as spaces gives back what was there.
  have hback : (encodeForm cs).map (fun c => if c = '+' then ' ' else c) =
      encodeExcept (fun c => standsInForm c || c == ' ') cs := by
    rw [encodeForm, List.map_map]
    refine (List.map_congr_left fun c hc => ?_).trans (List.map_id _)
    have hne : c ≠ '+' := fun heq => hplus (heq ▸ hc)
    by_cases hspace : c = ' '
    · simp [hspace]
    · simp [hspace, hne]
  rw [FormSpells, hback]
  exact spells_encodeExcept (by decide) cs

/-! ## Decoding once more -/

/-- No percent sign in a text has two digits behind it. -/
def Unescaped (cs : List Char) : Prop :=
  ∀ a b, ['%', a, b] <:+: cs → Text.digit? a = none ∨ Text.digit? b = none

/-- A text that means itself in a form: it has no plus, and no percent sign with two digits behind
it. -/
def IsPlain (cs : List Char) : Prop :=
  '+' ∉ cs ∧ Unescaped cs

/-- The bytes of a text in the chunks that the text gives them by. -/
def chunks : List Char → List (List UInt8)
  | [] => []
  | '%' :: a :: b :: cs =>
    match Text.digit? a, Text.digit? b with
    | some m, some n => [UInt8.ofNat (16 * m + n)] :: chunks cs
    | _, _ => String.utf8EncodeChar '%' :: chunks (a :: b :: cs)
  | c :: cs => String.utf8EncodeChar c :: chunks cs

lemma flatten_chunks (cs : List Char) : (chunks cs).flatten = bytes cs := by
  fun_induction chunks cs <;> simp_all [bytes]

lemma readAsOne_of_mem_chunks (cs : List Char) : ∀ chunk ∈ chunks cs, Utf8.ReadAsOne chunk := by
  fun_induction chunks cs with
  | case1 => simp
  | case2 a b cs m n hm hn ih => exact List.forall_mem_cons.2 ⟨Utf8.readAsOne_byte _, ih⟩
  | case3 a b cs hnot ih => exact List.forall_mem_cons.2 ⟨Utf8.readAsOne_char _, ih⟩
  | case4 c cs hnot ih => exact List.forall_mem_cons.2 ⟨Utf8.readAsOne_char _, ih⟩

lemma length_chunks_le (cs : List Char) : (chunks cs).length ≤ cs.length := by
  fun_induction chunks cs <;> simp only [List.length_cons, List.length_nil] at * <;> omega

lemma Unescaped.tail {c : Char} {cs : List Char} (h : Unescaped (c :: cs)) : Unescaped cs :=
  fun a b hin => h a b (hin.trans (List.suffix_cons c cs).isInfix)

lemma unescaped_nil : Unescaped [] := by
  intro a b hin
  simp at hin

lemma unescaped_cons_iff {c : Char} {cs : List Char} :
    Unescaped (c :: cs) ↔ Unescaped cs ∧
      ∀ a b, ['%', a, b] <+: c :: cs → Text.digit? a = none ∨ Text.digit? b = none := by
  constructor
  · exact fun h => ⟨h.tail, fun a b hpre => h a b hpre.isInfix⟩
  · rintro ⟨htail, hhead⟩ a b hin
    rcases List.infix_cons_iff.1 hin with hpre | hin
    · exact hhead a b hpre
    · exact htail a b hin

/-- A text has as many chunks as characters exactly if none of its percent signs has two digits
behind it. -/
lemma length_chunks_eq_iff {cs : List Char} :
    (chunks cs).length = cs.length ↔ Unescaped cs := by
  fun_induction chunks cs with
  | case1 => exact iff_of_true rfl unescaped_nil
  | case2 a b cs m n hm hn ih =>
    have hle := length_chunks_le cs
    refine iff_of_false (by simp only [List.length_cons]; omega) fun h => ?_
    have := h a b (List.infix_iff_prefix_suffix.2 ⟨_, ⟨cs, rfl⟩, List.suffix_rfl⟩)
    simp [hm, hn] at this
  | case3 a b cs hnot ih =>
    rw [List.length_cons, List.length_cons, Nat.succ_inj, ih, unescaped_cons_iff (c := '%'),
      iff_self_and]
    rintro - a' b' ⟨rest, hrest⟩
    simp only [List.cons_append, List.nil_append, List.cons.injEq] at hrest
    obtain ⟨-, rfl, rfl, -⟩ := hrest
    by_contra hboth
    rw [not_or, ← ne_eq, ← ne_eq, Option.ne_none_iff_exists', Option.ne_none_iff_exists'] at hboth
    obtain ⟨⟨m, hm⟩, n, hn⟩ := hboth
    exact hnot m n hm hn
  | case4 c cs hnot ih =>
    rw [List.length_cons, List.length_cons, Nat.succ_inj, ih, unescaped_cons_iff, iff_self_and]
    rintro - a b ⟨rest, hrest⟩
    simp only [List.cons_append, List.nil_append, List.cons.injEq] at hrest
    exact (hnot a b rest hrest.1.symm hrest.2.symm).elim

/-- A text with nothing to decode stands for its own bytes. -/
lemma bytes_eq_encode {cs : List Char} (h : Unescaped cs) : bytes cs = Utf8.encode cs := by
  fun_induction bytes cs with
  | case1 => rfl
  | case2 a b cs m n hm hn ih =>
    have := h a b (List.infix_iff_prefix_suffix.2 ⟨_, ⟨cs, rfl⟩, List.suffix_rfl⟩)
    simp [hm, hn] at this
  | case3 a b cs hnot ih =>
    rw [ih h.tail]
    rfl
  | case4 c cs hnot ih =>
    rw [ih h.tail]
    rfl

/-- Decoding a text once more, as a text of a form, leaves exactly plain texts as they are: a
sequence that is decoded makes the text shorter. -/
theorem decodeForm_eq_self_iff {cs : List Char} : decodeForm cs = cs ↔ IsPlain cs := by
  constructor
  · intro h
    obtain ⟨ds, hds⟩ : ∃ ds, cs.map (fun c => if c = '+' then ' ' else c) = ds := ⟨_, rfl⟩
    have hlength : ds.length = cs.length := by rw [← hds, List.length_map]
    have hscan := Utf8.length_scan_flatten_le (readAsOne_of_mem_chunks ds)
    have hdecoded := congrArg List.length h
    rw [decodeForm, hds, Utf8.decodeLossy, List.length_map, ← flatten_chunks] at hdecoded
    have hle := length_chunks_le ds
    have hunescaped : Unescaped ds := length_chunks_eq_iff.1 (by omega)
    rw [decodeForm, hds, bytes_eq_encode hunescaped, Utf8.decodeLossy_encode] at h
    subst h
    exact ⟨map_plus_eq_self_iff.1 hds, hunescaped⟩
  · rintro ⟨hplus, hunescaped⟩
    rw [decodeForm, map_plus_eq_self_iff.2 hplus, bytes_eq_encode hunescaped,
      Utf8.decodeLossy_encode]

end ApiContract.Percent
