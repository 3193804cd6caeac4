/-
# Timestamps

A timestamp is a date, a time of day down to the nanosecond, and an offset from universal
time in minutes.  The second 60 is a leap second.  Two timestamps are the same when they
denote the same instant.
-/
import ApiContract.Leaf.Date

namespace ApiContract

/-- A date and a time of day at an offset from universal time. -/
structure Timestamp where
  /-- The local date. -/
  date : Date
  /-- The local hour. -/
  hour : Nat
  /-- The minute. -/
  minute : Nat
  /-- The second; 60 in a leap second. -/
  second : Nat
  /-- The nanoseconds of the second. -/
  nanosecond : Nat
  /-- The minutes that local time is ahead of universal time. -/
  offset : Int
  /-- The time of day and the offset are in range. -/
  inRange : hour < 24 ∧ minute < 60 ∧ second ≤ 60 ∧ nanosecond < 1000000000 ∧
    -1440 < offset ∧ offset < 1440
deriving DecidableEq

namespace Timestamp

/-- The seconds of the instant and its nanoseconds, which in a leap second exceed one
second. -/
def instant (t : Timestamp) : Int × Nat :=
  let seconds := t.date.dayNumber * 86400 + t.hour * 3600 + (t.minute - t.offset) * 60
  if t.second = 60 then (seconds + 59, t.nanosecond + 1000000000)
  else (seconds + t.second, t.nanosecond)

/-- Whether two timestamps denote the same instant. -/
def same (t u : Timestamp) : Bool :=
  t.instant == u.instant

/-- The text of the nanoseconds: nothing, or three, six or nine digits. -/
def fractionText (n : Nat) : List Char :=
  if n = 0 then []
  else if n % 1000000 = 0 then '.' :: Text.padded 3 (n / 1000000)
  else if n % 1000 = 0 then '.' :: Text.padded 6 (n / 1000)
  else '.' :: Text.padded 9 n

/-- The text of an offset. -/
def offsetText (offset : Int) : List Char :=
  if offset = 0 then ['Z']
  else (if offset < 0 then '-' else '+') ::
    (Text.padded 2 (offset.natAbs / 60) ++ ':' :: Text.padded 2 (offset.natAbs % 60))

/-- The text of a timestamp. -/
def text (t : Timestamp) : List Char :=
  t.date.text ++ 'T' :: (Text.padded 2 t.hour ++ ':' :: (Text.padded 2 t.minute ++
    ':' :: (Text.padded 2 t.second ++ fractionText t.nanosecond ++ offsetText t.offset)))

/-! ## Reading -/

/-- The nanoseconds: nothing, or a point and at least one digit, of which the first nine
count. -/
def takeFraction? : List Char → Option (Nat × List Char)
  | '.' :: cs =>
    let digits := (cs.takeWhile Char.isDigit).take 9
    (Date.takeNumber? 1 9 cs).map fun (n, _) =>
      (n * Nat.pow 10 (9 - digits.length), cs.dropWhile Char.isDigit)
  | cs => some (0, cs)

/-- The offset: `Z`, or a sign, two digits, a colon and two digits.  The minus may be the
mathematical one. -/
def takeOffset? (cs : List Char) : Option (Int × List Char) :=
  let clock (cs : List Char) : Option (Nat × List Char) := do
    let (hours, cs) ← Date.takeNumber? 2 2 cs
    let cs ← Date.takeChar? ':' cs
    let (minutes, cs) ← Date.takeNumber? 2 2 cs
    if hours < 24 ∧ minutes < 60 then some (hours * 60 + minutes, cs) else none
  match cs with
  | 'Z' :: cs => some (0, cs)
  | 'z' :: cs => some (0, cs)
  | '+' :: cs => (clock cs).map fun (n, cs) => ((n : Int), cs)
  | '-' :: cs => (clock cs).map fun (n, cs) => (-(n : Int), cs)
  | '−' :: cs => (clock cs).map fun (n, cs) => (-(n : Int), cs)
  | _ => none

/-- The letter or the space between date and time. -/
def takeSeparator? : List Char → Option (List Char)
  | 'T' :: cs => some cs
  | 't' :: cs => some cs
  | ' ' :: cs => some cs
  | _ => none

/-- Reads a timestamp.  All numbers have their full width; the offset is required. -/
def read? (cs : List Char) : Option Timestamp := do
  let (year, cs) ← Date.takeNumber? 4 4 cs
  let cs ← Date.takeChar? '-' cs
  let (month, cs) ← Date.takeNumber? 2 2 cs
  let cs ← Date.takeChar? '-' cs
  let (day, cs) ← Date.takeNumber? 2 2 cs
  let cs ← takeSeparator? cs
  let (hour, cs) ← Date.takeNumber? 2 2 cs
  let cs ← Date.takeChar? ':' cs
  let (minute, cs) ← Date.takeNumber? 2 2 cs
  let cs ← Date.takeChar? ':' cs
  let (second, cs) ← Date.takeNumber? 2 2 cs
  let (nanosecond, cs) ← takeFraction? cs
  let (offset, cs) ← takeOffset? cs
  let date ← Date.of? year month day
  if h : hour < 24 ∧ minute < 60 ∧ second ≤ 60 ∧ nanosecond < 1000000000 ∧
      -1440 < offset ∧ offset < 1440 then
    if cs = [] then some ⟨date, hour, minute, second, nanosecond, offset, h⟩ else none
  else none

end Timestamp

end ApiContract
