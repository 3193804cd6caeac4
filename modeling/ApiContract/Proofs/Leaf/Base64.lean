/-
# Bytes and their text

Bytes are read back from their text three at a time, and what is left at the end from as many
characters as it needs.
-/
import ApiContract.Leaf.Base64
import Mathlib.Tactic.Common

namespace ApiContract.Base64

variable {n p q r s : Nat} {a b c d : Char}

/-! ## Characters -/

lemma value?_symbol (h : n < 64) : value? (symbol n) = some n := by
  revert n
  decide

lemma value?_filler : value? '=' = none := by
  decide

lemma byte_eq {b : UInt8} (h : n = b.toNat) : byte n = b := by
  rw [h, byte, UInt8.ofNat_toNat]

/-! ## Groups of four -/

/-- Four characters of the alphabet stand for three bytes. -/
lemma decode?_cons (ha : value? a = some p) (hb : value? b = some q) (hc : value? c = some r)
    (hd : value? d = some s) (hn : ((p * 64 + q) * 64 + r) * 64 + s = n) (cs : List Char) :
    decode? (a :: b :: c :: d :: cs) =
      (decode? cs).map (byte (n / 65536) :: byte (n / 256 % 256) :: byte (n % 256) :: ·) := by
  have hne : d ≠ '=' := by
    rintro rfl
    simp [value?_filler] at hd
  rw [decode?]
  · simp only [ha, hb, hc, hd, Option.bind_eq_bind, Option.bind_some, hn]
    cases decode? cs <;> rfl
  · exact fun _ hd _ => hne hd
  · exact fun hd _ => hne hd

/-- Three characters and a filler stand for two bytes. -/
lemma decode?_three (ha : value? a = some p) (hb : value? b = some q) (hc : value? c = some r)
    (hn : (p * 64 + q) * 64 + r = n) (hspare : n % 4 = 0) :
    decode? [a, b, c, '='] = some [byte (n / 1024), byte (n / 4 % 256)] := by
  have hne : c ≠ '=' := by
    rintro rfl
    simp [value?_filler] at hc
  rw [decode?]
  · simp [ha, hb, hc, hn, hspare]
  · exact hne

/-- Two characters and two fillers stand for one byte. -/
lemma decode?_two (ha : value? a = some p) (hb : value? b = some q) (hn : p * 64 + q = n)
    (hspare : n % 16 = 0) : decode? [a, b, '=', '='] = some [byte (n / 16)] := by
  simp [decode?, ha, hb, hn, hspare]

/-! ## Texts -/

/-- **Bytes are read back from their text.** -/
theorem decode?_encode (bs : List UInt8) : decode? (encode bs) = some bs := by
  fun_induction encode bs with
  | case1 => rfl
  | case2 a n =>
    have ha := a.toNat_lt
    rw [decode?_two (value?_symbol (by omega)) (value?_symbol (by omega)) rfl (by omega),
      byte_eq (b := a) (by omega)]
  | case3 a b n =>
    have ha := a.toNat_lt
    have hb := b.toNat_lt
    rw [decode?_three (value?_symbol (by omega)) (value?_symbol (by omega))
      (value?_symbol (by omega)) rfl (by omega), byte_eq (b := a) (by omega),
      byte_eq (b := b) (by omega)]
  | case4 a b c bs n ih =>
    have ha := a.toNat_lt
    have hb := b.toNat_lt
    have hc := c.toNat_lt
    rw [decode?_cons (value?_symbol (by omega)) (value?_symbol (by omega))
      (value?_symbol (by omega)) (value?_symbol (by omega)) rfl, ih,
      byte_eq (b := a) (by omega), byte_eq (b := b) (by omega), byte_eq (b := c) (by omega)]
    rfl

end ApiContract.Base64
