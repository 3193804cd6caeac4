/-
# UTF-8

A byte sequence is read as a sequence of characters in which every maximal ill-formed
piece leaves one gap.  Strict and lenient decoding are two views of that reading:

* `decode?` succeeds when there is no gap;
* `decodeLossy` puts the replacement character `U+FFFD` into every gap.
-/

namespace ApiContract.Utf8

/-- The bytes of a text. -/
def encode (cs : List Char) : List UInt8 :=
  cs.flatMap String.utf8EncodeChar

/-- A character whose first bytes have been read. -/
structure Pending where
  /-- The number of continuation bytes still owed; never zero. -/
  owed : Nat
  /-- The least value the next byte may have. -/
  low : Nat
  /-- The greatest value the next byte may have. -/
  high : Nat
  /-- The bits of the code point read so far. -/
  bits : Nat

/-- What a first byte of `0x80` or more opens.  The bounds on the second byte rule out
overlong forms, surrogates and code points above `0x10FFFF`. -/
def lead (b : Nat) : Option Pending :=
  if 0xC2 ≤ b ∧ b ≤ 0xDF then some ⟨1, 0x80, 0xBF, b % 32⟩
  else if b = 0xE0 then some ⟨2, 0xA0, 0xBF, 0⟩
  else if b = 0xED then some ⟨2, 0x80, 0x9F, 13⟩
  else if 0xE1 ≤ b ∧ b ≤ 0xEF then some ⟨2, 0x80, 0xBF, b % 16⟩
  else if b = 0xF0 then some ⟨3, 0x90, 0xBF, 0⟩
  else if 0xF1 ≤ b ∧ b ≤ 0xF3 then some ⟨3, 0x80, 0xBF, b % 8⟩
  else if b = 0xF4 then some ⟨3, 0x80, 0x8F, 4⟩
  else none

/-- The effect of a byte between characters: what it yields and what it leaves open. -/
def start (b : UInt8) : List (Option Char) × Option Pending :=
  if b.toNat < 0x80 then ([some (Char.ofNat b.toNat)], none)
  else match lead b.toNat with
    | some p => ([], some p)
    | none => ([none], none)

/-- Reads on, possibly in the middle of a character. -/
def scanFrom : Option Pending → List UInt8 → List (Option Char)
  | none, [] => []
  | some _, [] => [none]
  | none, b :: bs => (start b).1 ++ scanFrom (start b).2 bs
  | some p, b :: bs =>
    if p.low ≤ b.toNat ∧ b.toNat ≤ p.high then
      let bits := p.bits * 64 + b.toNat % 64
      if p.owed ≤ 1 then some (Char.ofNat bits) :: scanFrom none bs
      else scanFrom (some ⟨p.owed - 1, 0x80, 0xBF, bits⟩) bs
    else none :: ((start b).1 ++ scanFrom (start b).2 bs)

/-- The characters of a byte sequence, `none` standing for a maximal ill-formed piece. -/
def scan (bs : List UInt8) : List (Option Char) :=
  scanFrom none bs

/-- Strict decoding. -/
def decode? (bs : List UInt8) : Option (List Char) :=
  (scan bs).mapM id

/-- Lenient decoding. -/
def decodeLossy (bs : List UInt8) : List Char :=
  (scan bs).map fun c => c.getD '\uFFFD'

end ApiContract.Utf8
