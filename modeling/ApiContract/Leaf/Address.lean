/-
# Internet addresses

An address of version 4 is four bytes, one of version 6 is eight groups of sixteen bits.
The longest run of at least two zero groups is written `::`, and an address that embeds
one of version 4 shows it in dotted form.
-/
import ApiContract.Text.Pieces
import ApiContract.Text.Letters

namespace ApiContract

/-- An internet address. -/
inductive Address where
  /-- Version 4: four bytes. -/
  | v4 (a b c d : UInt8)
  /-- Version 6: eight groups of sixteen bits. -/
  | v6 (g₀ g₁ g₂ g₃ g₄ g₅ g₆ g₇ : UInt16)
deriving DecidableEq, Repr

namespace Address

/-! ## Version 4 -/

/-- The text of four bytes. -/
def dotted (a b c d : UInt8) : List Char :=
  Text.join '.' ([a, b, c, d].map fun n => Text.decimalDigits n.toNat)

/-- A number below 256 in base ten without superfluous zeros. -/
def readByte? (cs : List Char) : Option UInt8 :=
  let n := cs.foldl (fun n c => 10 * n + (c.toNat - '0'.toNat)) 0
  if cs ≠ [] ∧ cs.length ≤ 3 ∧ cs.all Char.isDigit = true ∧ n < 256
      ∧ (cs.head? = some '0' → cs.length = 1) then
    some (UInt8.ofNat n)
  else none

/-- Reads four bytes in dotted form. -/
def readDotted? (cs : List Char) : Option (UInt8 × UInt8 × UInt8 × UInt8) :=
  match Text.split '.' cs with
  | [a, b, c, d] => do
    some (← readByte? a, ← readByte? b, ← readByte? c, ← readByte? d)
  | _ => none

/-- Reads an address of version 4. -/
def readV4? (cs : List Char) : Option Address :=
  (readDotted? cs).map fun (a, b, c, d) => v4 a b c d

/-! ## Version 6 -/

/-- The text of groups between colons. -/
def groupsText (gs : List UInt16) : List Char :=
  Text.join ':' (gs.map fun g => Text.hexDigits g.toNat)

/-- The number of zeros at the beginning. -/
def leadingZeros (gs : List UInt16) : Nat :=
  (gs.takeWhile (· == 0)).length

/-- Where the first of the longest runs of zeros begins, and its length. -/
def longestRun (gs : List UInt16) : Nat × Nat :=
  (List.range gs.length).foldl
    (fun best i =>
      let n := leadingZeros (gs.drop i)
      if best.2 < n then (i, n) else best)
    (0, 0)

/-- The text of eight groups. -/
def groupsWithGap (gs : List UInt16) : List Char :=
  let (start, length) := longestRun gs
  if length < 2 then groupsText gs
  else groupsText (gs.take start) ++ ':' :: ':' :: groupsText (gs.drop (start + length))

/-- The text of an address. -/
def text : Address → List Char
  | v4 a b c d => dotted a b c d
  | v6 g₀ g₁ g₂ g₃ g₄ g₅ g₆ g₇ =>
    if [g₀, g₁, g₂, g₃, g₄] = [0, 0, 0, 0, 0] ∧ g₅ = 0xFFFF then
      [':', ':', 'f', 'f', 'f', 'f', ':'] ++
        dotted (g₆ / 256).toUInt8 g₆.toUInt8 (g₇ / 256).toUInt8 g₇.toUInt8
    else groupsWithGap [g₀, g₁, g₂, g₃, g₄, g₅, g₆, g₇]

/-- A group: one to four digits of base sixteen. -/
def readGroup? (cs : List Char) : Option UInt16 :=
  if cs ≠ [] ∧ cs.length ≤ 4 then
    (cs.foldlM (fun n c => (Text.digit? c).map fun d => 16 * n + d) 0).map UInt16.ofNat
  else none

/-- Reads groups between colons; the last one may be an address of version 4. -/
def readGroups? (cs : List Char) : Option (List UInt16) :=
  let pieces := Text.split ':' cs
  match pieces.reverse with
  | [] => none
  | last :: before =>
    match readDotted? last with
    | some (a, b, c, d) => do
      let gs ← before.reverse.mapM readGroup?
      some (gs ++ [a.toUInt16 * 256 + b.toUInt16, c.toUInt16 * 256 + d.toUInt16])
    | none => pieces.mapM readGroup?

/-- The text before the first `::` and the text after it. -/
def cutGap : List Char → Option (List Char × List Char)
  | ':' :: ':' :: cs => some ([], cs)
  | [] => none
  | c :: cs => (cutGap cs).map fun (before, after) => (c :: before, after)

/-- The address of eight groups. -/
def ofGroups? : List UInt16 → Option Address
  | [g₀, g₁, g₂, g₃, g₄, g₅, g₆, g₇] => some (v6 g₀ g₁ g₂ g₃ g₄ g₅ g₆ g₇)
  | _ => none

/-- Groups beside a gap: possibly none at all. -/
def readSide? (cs : List Char) : Option (List UInt16) :=
  if cs = [] then some [] else readGroups? cs

/-- Reads an address of version 6.  A gap stands for at least one group, and only groups
in base sixteen may precede it. -/
def readV6? (cs : List Char) : Option Address :=
  match cutGap cs with
  | none => readGroups? cs >>= ofGroups?
  | some (before, after) => do
    let head ← if before = [] then some [] else (Text.split ':' before).mapM readGroup?
    let tail ← readSide? after
    if head.length + tail.length ≤ 7 then
      ofGroups? (head ++ List.replicate (8 - head.length - tail.length) 0 ++ tail)
    else none

end Address

end ApiContract
