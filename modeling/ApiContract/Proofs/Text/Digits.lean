/-
# Written numbers

A number is written with digits that denote it, and it is filled up with zeros that change nothing.
It has no more digits than it needs, so only zero begins with a zero.
-/
import ApiContract.Proofs.Number.Decimal
import Mathlib.Algebra.Group.Nat.Defs
import Mathlib.Data.List.Induction

namespace ApiContract.Text

open Number (AreDigits ofDigits)

variable {n width : Nat}

/-! ## Base ten -/

/-- A number other than zero does not begin with a zero. -/
lemma head?_decimalDigits (h : 0 < n) : (decimalDigits n).head? ≠ some '0' := by
  induction n using Nat.strongRecOn with
  | ind n ih =>
    rw [decimalDigits, Nat.toDigits_eq_if (by decide)]
    split
    · simp only [List.head?_cons, ne_eq, Option.some.injEq, Nat.digitChar_eq_zero]
      omega
    · -- The first digit is that of the number without its last digit.
      have hfirst := ih (n / 10) (by omega) (by omega)
      obtain ⟨c, cs, hdigits⟩ := List.exists_cons_of_ne_nil
        (Nat.toDigits_ne_nil : Nat.toDigits 10 (n / 10) ≠ [])
      rw [decimalDigits, hdigits] at hfirst
      rw [hdigits]
      exact hfirst

lemma areDigits_padded (width n : Nat) : AreDigits (padded width n) := by
  obtain ⟨hne, hdigits⟩ := Number.areDigits_decimalDigits n
  refine ⟨by simp [padded, fill, hne], fun c hc => ?_⟩
  rcases List.mem_append.1 hc with hzero | hdigit
  · rw [List.eq_of_mem_replicate hzero]
    rfl
  · exact hdigits c hdigit

lemma ofDigits_padded (width n : Nat) : ofDigits (padded width n) = n := by
  change Nat.ofDigitChars 10 (List.replicate _ '0' ++ decimalDigits n) 0 = n
  rw [Nat.ofDigitChars_append, Nat.ofDigitChars_replicate_zero, Nat.mul_zero]
  exact Number.ofDigits_decimalDigits n

/-- A number that fits is filled up to exactly the width. -/
lemma length_padded (hwidth : 0 < width) (h : n < 10 ^ width) :
    (padded width n).length = width := by
  have hle : (decimalDigits n).length ≤ width :=
    (Nat.length_toDigits_le_iff (by decide) hwidth).2 h
  rw [padded, fill, List.length_append, List.length_replicate]
  omega

/-- Digits denote a number that has no more of them. -/
lemma ofDigits_lt {ds : List Char} (h : ∀ d ∈ ds, d.isDigit = true) :
    ofDigits ds < 10 ^ ds.length := by
  induction ds using List.reverseRecOn with
  | nil => decide
  | append_singleton ds d ih =>
    have hd : d.isDigit = true := h d (by simp)
    have hbound : d.toNat ≤ '9'.toNat := (Char.isDigit_iff_toNat.1 hd).2
    have hds : ofDigits ds < 10 ^ ds.length := ih fun e he => h e (by simp [he])
    rw [show '9'.toNat = '0'.toNat + 9 from rfl] at hbound
    rw [ofDigits, List.foldl_append, List.length_append, List.length_singleton, Nat.pow_succ]
    change 10 * ofDigits ds + (d.toNat - '0'.toNat) < _
    omega

/-! ## Base sixteen -/

lemma digit?_digitChar (h : n < 16) : digit? (Nat.digitChar n) = some n := by
  revert n
  decide

lemma digit?_of_mem_hexDigits {c : Char} (h : c ∈ hexDigits n) : digit? c ≠ none := by
  induction n using Nat.strongRecOn with
  | ind n ih =>
    rw [hexDigits, Nat.toDigits_eq_if (by decide)] at h
    split at h
    · rename_i hlt
      rw [List.mem_singleton.1 h, digit?_digitChar hlt]
      simp
    · rcases List.mem_append.1 h with hmem | hmem
      · exact ih (n / 16) (by omega) hmem
      · rw [List.mem_singleton.1 hmem, digit?_digitChar (Nat.mod_lt n (by decide))]
        simp

/-- A number is read from its digits in base sixteen. -/
lemma foldlM_hexDigits (n : Nat) :
    (hexDigits n).foldlM (fun n c => (digit? c).map fun d => 16 * n + d) 0 = some n := by
  induction n using Nat.strongRecOn with
  | ind n ih =>
    rw [hexDigits, Nat.toDigits_eq_if (by decide)]
    split
    · rename_i hlt
      simp [digit?_digitChar hlt]
    · rw [List.foldlM_append, ← hexDigits, ih (n / 16) (by omega)]
      simp only [Option.bind_eq_bind, Option.bind_some, List.foldlM_cons, List.foldlM_nil,
        digit?_digitChar (Nat.mod_lt n (by decide)), Option.map_some, Option.pure_def,
        Option.some.injEq]
      omega

end ApiContract.Text
