/-
# Decoding of what has been encoded

The bytes of a character are read as that character, whatever stands behind them.  What stands
before them is cut off: no byte that begins a character goes on with another one.  So decoding
undoes encoding, and among other bytes a character never counts as more than one.
-/
import ApiContract.Text.Utf8
import Mathlib.Tactic.Common

namespace ApiContract.Utf8

variable {b : UInt8} {bs : List UInt8} {owed low high bits : Nat}

/-! ## Single bytes -/

lemma toNat_ofNat {n : Nat} (h : n < 256) : (UInt8.ofNat n).toNat = n :=
  Nat.mod_eq_of_lt h

lemma scanFrom_ascii (h : b.toNat < 0x80) :
    scanFrom none (b :: bs) = some (Char.ofNat b.toNat) :: scanFrom none bs := by
  rw [scanFrom, start, if_pos h]
  rfl

lemma scanFrom_lead {p : Pending} (hb : 0x80 ≤ b.toNat) (h : lead b.toNat = some p) :
    scanFrom none (b :: bs) = scanFrom (some p) bs := by
  rw [scanFrom, start, if_neg (Nat.not_lt.2 hb), h]
  rfl

lemma scanFrom_last (hlow : low ≤ b.toNat) (hhigh : b.toNat ≤ high) :
    scanFrom (some ⟨1, low, high, bits⟩) (b :: bs) =
      some (Char.ofNat (bits * 64 + b.toNat % 64)) :: scanFrom none bs := by
  rw [scanFrom, if_pos ⟨hlow, hhigh⟩]
  exact if_pos (Nat.le_refl 1)

lemma scanFrom_more (hlow : low ≤ b.toNat) (hhigh : b.toNat ≤ high) :
    scanFrom (some ⟨owed + 2, low, high, bits⟩) (b :: bs) =
      scanFrom (some ⟨owed + 1, 0x80, 0xBF, bits * 64 + b.toNat % 64⟩) bs := by
  rw [scanFrom, if_pos ⟨hlow, hhigh⟩]
  exact if_neg (by simp)

lemma scanFrom_cut {p : Pending} (h : ¬ (p.low ≤ b.toNat ∧ b.toNat ≤ p.high)) :
    scanFrom (some p) (b :: bs) = none :: scanFrom none (b :: bs) :=
  if_neg h

/-! ## Characters -/

lemma lead_two {n : Nat} (hlow : 0x7F < n) (hhigh : n ≤ 0x7FF) :
    lead (n / 64 + 192) = some ⟨1, 0x80, 0xBF, n / 64⟩ := by
  rw [lead, if_pos (by omega), show (n / 64 + 192) % 32 = n / 64 by omega]

/-- The second of three bytes is within the bounds that rule out overlong forms and surrogates. -/
lemma lead_three {n : Nat} (hlow : 0x7FF < n) (hhigh : n ≤ 0xFFFF)
    (hvalid : n < 0xD800 ∨ 0xDFFF < n) :
    ∃ low high, lead (n / 4096 + 224) = some ⟨2, low, high, n / 4096⟩ ∧
      low ≤ n / 64 % 64 + 128 ∧ n / 64 % 64 + 128 ≤ high := by
  rw [lead, if_neg (by omega)]
  split
  · exact ⟨0xA0, 0xBF, by rw [show n / 4096 = 0 by omega], by omega, by omega⟩
  split
  · exact ⟨0x80, 0x9F, by rw [show n / 4096 = 13 by omega], by omega, by omega⟩
  rw [if_pos (by omega)]
  exact ⟨0x80, 0xBF, by rw [show (n / 4096 + 224) % 16 = n / 4096 by omega], by omega, by omega⟩

/-- The second of four bytes is within the bounds that rule out overlong forms and code points
that are too great. -/
lemma lead_four {n : Nat} (hlow : 0xFFFF < n) (hhigh : n < 0x110000) :
    ∃ low high, lead (n / 262144 + 240) = some ⟨3, low, high, n / 262144⟩ ∧
      low ≤ n / 4096 % 64 + 128 ∧ n / 4096 % 64 + 128 ≤ high := by
  rw [lead, if_neg (by omega), if_neg (by omega), if_neg (by omega), if_neg (by omega)]
  split
  · exact ⟨0x90, 0xBF, by rw [show n / 262144 = 0 by omega], by omega, by omega⟩
  split
  · refine ⟨0x80, 0xBF, ?_, by omega, by omega⟩
    rw [show (n / 262144 + 240) % 8 = n / 262144 by omega]
  rw [if_pos (by omega)]
  exact ⟨0x80, 0x8F, by rw [show n / 262144 = 4 by omega], by omega, by omega⟩

/-- A character is not a surrogate. -/
lemma toNat_not_surrogate (c : Char) : c.toNat < 0xD800 ∨ 0xDFFF < c.toNat ∧ c.toNat < 0x110000 :=
  c.valid

/-- The bytes of a character, by its code point. -/
lemma encodeChar_eq (c : Char) {n : Nat} (hn : c.toNat = n) :
    String.utf8EncodeChar c =
      if n ≤ 127 then [UInt8.ofNat n]
      else if n ≤ 2047 then
        [UInt8.ofNat (n / 64 % 32 + 192), UInt8.ofNat (n % 64 + 128)]
      else if n ≤ 65535 then
        [UInt8.ofNat (n / 4096 % 16 + 224), UInt8.ofNat (n / 64 % 64 + 128),
          UInt8.ofNat (n % 64 + 128)]
      else
        [UInt8.ofNat (n / 262144 % 8 + 240), UInt8.ofNat (n / 4096 % 64 + 128),
          UInt8.ofNat (n / 64 % 64 + 128), UInt8.ofNat (n % 64 + 128)] := by
  subst hn
  rfl

/-- The bytes of a character are read as that character. -/
lemma scanFrom_encodeChar (c : Char) (bs : List UInt8) :
    scanFrom none (String.utf8EncodeChar c ++ bs) = some c :: scanFrom none bs := by
  obtain ⟨n, hn⟩ : ∃ n, c.toNat = n := ⟨_, rfl⟩
  have hvalid := hn ▸ toNat_not_surrogate c
  have hc : Char.ofNat n = c := hn ▸ Char.ofNat_toNat c
  have hlast := toNat_ofNat (n := n % 64 + 128) (by omega)
  have hmiddle := toNat_ofNat (n := n / 64 % 64 + 128) (by omega)
  rw [encodeChar_eq c hn]
  split
  · have hbyte := toNat_ofNat (n := n) (by omega)
    rw [List.singleton_append, scanFrom_ascii (by omega), hbyte, hc]
  split
  · have hfirst : (UInt8.ofNat (n / 64 % 32 + 192)).toNat = n / 64 + 192 := by
      rw [toNat_ofNat (by omega)]
      omega
    have hlead := hfirst ▸ lead_two (n := n) (by omega) (by omega)
    simp only [List.cons_append, List.nil_append]
    rw [scanFrom_lead (by omega) hlead, scanFrom_last (by omega) (by omega), hlast,
      show n / 64 * 64 + (n % 64 + 128) % 64 = n by omega, hc]
  split
  · have hfirst : (UInt8.ofNat (n / 4096 % 16 + 224)).toNat = n / 4096 + 224 := by
      rw [toNat_ofNat (by omega)]
      omega
    obtain ⟨low, high, hlead, hlow, hhigh⟩ := lead_three (n := n) (by omega) (by omega) (by omega)
    rw [← hfirst] at hlead
    simp only [List.cons_append, List.nil_append]
    rw [scanFrom_lead (by omega) hlead, scanFrom_more (by omega) (by omega),
      scanFrom_last (by omega) (by omega), hlast, hmiddle,
      show (n / 4096 * 64 + (n / 64 % 64 + 128) % 64) * 64 + (n % 64 + 128) % 64 = n by omega, hc]
  · have hfirst : (UInt8.ofNat (n / 262144 % 8 + 240)).toNat = n / 262144 + 240 := by
      rw [toNat_ofNat (by omega)]
      omega
    have hsecond := toNat_ofNat (n := n / 4096 % 64 + 128) (by omega)
    obtain ⟨low, high, hlead, hlow, hhigh⟩ := lead_four (n := n) (by omega) (by omega)
    rw [← hfirst] at hlead
    simp only [List.cons_append, List.nil_append]
    rw [scanFrom_lead (by omega) hlead, scanFrom_more (by omega) (by omega),
      scanFrom_more (by omega) (by omega), scanFrom_last (by omega) (by omega), hlast, hmiddle,
      hsecond,
      show ((n / 262144 * 64 + (n / 4096 % 64 + 128) % 64) * 64 + (n / 64 % 64 + 128) % 64) * 64 +
        (n % 64 + 128) % 64 = n by omega, hc]

/-! ## Decoding -/

lemma scan_encode (cs : List Char) : scan (encode cs) = cs.map some := by
  induction cs with
  | nil => rfl
  | cons c cs ih =>
    rw [scan, encode, List.flatMap_cons, scanFrom_encodeChar, List.map_cons]
    exact congrArg _ ih

/-- Strict decoding undoes encoding. -/
lemma decode?_encode (cs : List Char) : decode? (encode cs) = some cs := by
  rw [decode?, scan_encode, List.mapM_map]
  exact List.mapM_pure (m := Option) (f := fun c => c) |>.trans (by simp)

/-- Lenient decoding undoes encoding. -/
lemma decodeLossy_encode (cs : List Char) : decodeLossy (encode cs) = cs := by
  rw [decodeLossy, scan_encode, List.map_map]
  exact List.map_id cs

/-! ## How much is read -/

/-- A character that has been begun goes on with continuation bytes only. -/
def Pending.Continues (p : Pending) : Prop :=
  0x80 ≤ p.low ∧ p.high ≤ 0xBF

lemma continues_of_lead {n : Nat} {p : Pending} (h : lead n = some p) : p.Continues := by
  unfold lead at h
  split_ifs at h <;> obtain rfl := Option.some.inj h <;> exact ⟨by simp, by simp⟩

/-- Some bytes are read as at most one character or gap, apart from the gap that a character before
them leaves if they do not complete it. -/
def ReadAsOne (chunk : List UInt8) : Prop :=
  ∀ p : Option Pending, (∀ q ∈ p, q.Continues) → ∀ bs, ∃ read p',
    scanFrom p (chunk ++ bs) = read ++ scanFrom p' bs ∧ (∀ q ∈ p', q.Continues) ∧
      read.length + p'.toList.length ≤ 1 + p.toList.length

lemma continues_of_start : ∀ q ∈ (start b).2, q.Continues := by
  intro q hq
  unfold start at hq
  split at hq
  · cases hq
  · split at hq
    · rename_i p hlead
      obtain rfl := Option.some.inj hq
      exact continues_of_lead hlead
    · cases hq

lemma length_start : (start b).1.length + (start b).2.toList.length = 1 := by
  unfold start
  split
  · rfl
  · split <;> rfl

lemma readAsOne_byte (b : UInt8) : ReadAsOne [b] := by
  intro p hp bs
  cases p with
  | none => exact ⟨(start b).1, (start b).2, rfl, continues_of_start, by simp [length_start]⟩
  | some p =>
    rw [List.singleton_append, scanFrom]
    split
    · dsimp only
      split
      · exact ⟨[some _], none, rfl, by simp, by simp⟩
      · exact ⟨[], some _, rfl, by simp [Pending.Continues], by simp⟩
    · -- The byte does not complete the character before it, and begins something itself.
      refine ⟨none :: (start b).1, (start b).2, rfl, continues_of_start, ?_⟩
      have := length_start (b := b)
      simp only [List.length_cons, Option.toList_some, List.length_nil]
      omega

/-- The first byte of a character is no continuation byte. -/
lemma exists_first_byte (c : Char) :
    ∃ b bs, String.utf8EncodeChar c = b :: bs ∧ (b.toNat < 0x80 ∨ 0xBF < b.toNat) := by
  obtain ⟨n, hn⟩ : ∃ n, c.toNat = n := ⟨_, rfl⟩
  rw [encodeChar_eq c hn]
  split
  · exact ⟨_, _, rfl, Or.inl (by rw [toNat_ofNat] <;> omega)⟩
  split
  · exact ⟨_, _, rfl, Or.inr (by rw [toNat_ofNat] <;> omega)⟩
  split <;> exact ⟨_, _, rfl, Or.inr (by rw [toNat_ofNat] <;> omega)⟩

lemma readAsOne_char (c : Char) : ReadAsOne (String.utf8EncodeChar c) := by
  intro p hp bs
  cases p with
  | none => exact ⟨[some c], none, scanFrom_encodeChar c bs, by simp, by simp⟩
  | some p =>
    obtain ⟨b, rest, hbytes, hfirst⟩ := exists_first_byte c
    obtain ⟨hlow, hhigh⟩ := hp p rfl
    refine ⟨[none, some c], none, ?_, by simp, by simp⟩
    have hscan := scanFrom_encodeChar c bs
    rw [hbytes, List.cons_append] at hscan ⊢
    rw [scanFrom_cut (by omega), hscan]
    rfl

/-- There are at most as many characters as there are chunks that are each read as one. -/
lemma length_scan_flatten_le {chunks : List (List UInt8)} (h : ∀ chunk ∈ chunks, ReadAsOne chunk) :
    (scan chunks.flatten).length ≤ chunks.length := by
  suffices ∀ p : Option Pending, (∀ q ∈ p, q.Continues) →
      (scanFrom p chunks.flatten).length ≤ chunks.length + p.toList.length by
    exact this none (by simp)
  induction chunks with
  | nil => rintro (_ | p) _ <;> simp [scanFrom]
  | cons chunk chunks ih =>
    intro p hp
    obtain ⟨read, p', hscan, hp', hlength⟩ := h chunk List.mem_cons_self p hp chunks.flatten
    have hrest := ih (fun c hc => h c (List.mem_cons_of_mem _ hc)) p' hp'
    rw [List.flatten_cons, hscan, List.length_append, List.length_cons]
    omega

end ApiContract.Utf8
