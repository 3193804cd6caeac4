/-
# Hosts

The host of a URL is a name or an address.  The schemes of the web fold names to lower
case, refuse the characters that delimit the parts of a URL, and read a name whose last
part is a number as an address of version 4.
-/
import ApiContract.Leaf.Address
import ApiContract.Text.Percent
import ApiContract.Number.Integer
import ApiContract.Url.Domain

namespace ApiContract.Url

/-! ## Addresses -/

/-- A part of an address of version 4: a number in base ten, eight or sixteen.  The inner
option is empty if the number exceeds 32 bits. -/
def numberPart? (cs : List Char) : Option (Option Nat) :=
  let (base, digits) := match cs with
    | '0' :: 'x' :: cs => (16, cs)
    | '0' :: 'X' :: cs => (16, cs)
    | '0' :: c :: cs => (8, c :: cs)
    | cs => (10, cs)
  if cs = [] then none
  else
    match digits.mapM (Text.digitBelow? base) with
    | none => none
    | some ds =>
      let n := ds.foldl (fun n d => base * n + d) 0
      some (if n < Nat.pow 2 32 then some n else none)

/-- The parts of a name, without an empty last one. -/
def nameParts (cs : List Char) : List (List Char) :=
  let parts := Text.split '.' cs
  if parts.length ≠ 1 && parts.getLast? == some [] then parts.dropLast else parts

/-- Whether the last part of a name is a number. -/
def endsInNumber (cs : List Char) : Bool :=
  match (nameParts cs).getLast? with
  | none => false
  | some part => (part ≠ [] && part.all Char.isDigit) || (numberPart? part).isSome

/-- The address that a name with numbers stands for; the last number fills the remaining
bytes. -/
def ofNumbers? (cs : List Char) : Option (List Char) := do
  let parts := nameParts cs
  if 4 < parts.length then none
  let numbers ← parts.mapM fun part => (numberPart? part).join
  let last ← numbers.getLast?
  let before := numbers.dropLast
  if Nat.pow 256 (4 - before.length) ≤ last || before.any (255 < ·) then none
  let n := last + ((before.zipIdx).map fun (m, i) => m * Nat.pow 256 (3 - i)).foldr (· + ·) 0
  let byte (k : Nat) : UInt8 := UInt8.ofNat (n / Nat.pow 256 k % 256)
  some (Address.dotted (byte 3) (byte 2) (byte 1) (byte 0))

/-- The text of an address of version 6 in brackets. -/
def bracketed? (cs : List Char) : Option (List Char) :=
  match Address.readV6? cs with
  | some (.v6 g₀ g₁ g₂ g₃ g₄ g₅ g₆ g₇) =>
    some ('[' :: (Address.groupsWithGap [g₀, g₁, g₂, g₃, g₄, g₅, g₆, g₇] ++ [']']))
  | _ => none

/-- The text between brackets. -/
def unbracket? (cs : List Char) : Option (List Char) :=
  match cs with
  | '[' :: cs => if cs.getLast? = some ']' then some cs.dropLast else none
  | _ => none

/-! ## Names -/

/-- Control characters of ASCII and all characters outside ASCII. -/
def isControl (c : Char) : Bool :=
  c.toNat < 0x20 || 0x7F ≤ c.toNat

/-- The host of a scheme of the web. -/
def webHost? (cs : List Char) : Option (List Char) :=
  if cs.head? = some '[' then unbracket? cs >>= bracketed?
  else do
    let name ← Domain.toAscii? (Utf8.decodeLossy (Percent.bytes cs))
    if name = [] then none
    else if endsInNumber name then ofNumbers? name
    else some name

/-- The host of any other scheme. -/
def otherHost? (cs : List Char) : Option (List Char) :=
  if cs.head? = some '[' then unbracket? cs >>= bracketed?
  else if cs.any (['\x00', '\t', '\n', '\r', ' ', '#', '/', ':', '<', '>', '?', '@', '[', '\\',
      ']', '^', '|'].contains ·) then none
  else some (Percent.encodeExcept (fun c => !isControl c) cs)

end ApiContract.Url
