/-
# Calendar dates

A date is a year, a month and a day that exists in it.  It is written `year-month-day`;
years outside `0 … 9999` carry a sign.
-/
import ApiContract.Text.Letters

namespace ApiContract

/-- Whether a year of the Gregorian calendar has a leap day. -/
def isLeapYear (year : Int) : Bool :=
  year % 4 = 0 && (year % 100 ≠ 0 || year % 400 = 0)

/-- The number of days of a month. -/
def daysInMonth (year : Int) (month : Nat) : Nat :=
  if month = 2 then (if isLeapYear year then 29 else 28)
  else if month = 4 ∨ month = 6 ∨ month = 9 ∨ month = 11 then 30
  else 31

/-- Whether a year, a month and a day form a date of the calendar's range. -/
def isDate (year : Int) (month day : Nat) : Bool :=
  -262143 ≤ year && year ≤ 262142 && 1 ≤ month && month ≤ 12 && 1 ≤ day
    && day ≤ daysInMonth year month

/-- A date of the Gregorian calendar. -/
structure Date where
  /-- The year; the year before 1 is 0. -/
  year : Int
  /-- The month, from 1. -/
  month : Nat
  /-- The day of the month, from 1. -/
  day : Nat
  /-- The day exists. -/
  exists_day : isDate year month day = true
deriving DecidableEq

namespace Date

/-- The date with these numbers, if there is one. -/
def of? (year : Int) (month day : Nat) : Option Date :=
  if h : isDate year month day = true then some ⟨year, month, day, h⟩ else none

/-- The text of a year. -/
def yearText (year : Int) : List Char :=
  if 0 ≤ year ∧ year ≤ 9999 then Text.padded 4 year.toNat
  else (if year < 0 then '-' else '+') :: Text.padded 4 year.natAbs

/-- The text of a date. -/
def text (d : Date) : List Char :=
  yearText d.year ++ '-' :: (Text.padded 2 d.month ++ '-' :: Text.padded 2 d.day)

/-- The number of days from the first day of the year 0. -/
def dayNumber (d : Date) : Int :=
  let leapsBefore (y : Int) : Int := (y + 3) / 4 - (y + 99) / 100 + (y + 399) / 400
  let months := (List.range (d.month - 1)).map fun m => daysInMonth d.year (m + 1)
  365 * d.year + leapsBefore d.year + (months.foldr (· + ·) 0 : Nat) + (d.day : Int) - 1

/-! ## Reading -/

/-- Reads between `least` and `most` digits, as many as there are. -/
def takeNumber? (least most : Nat) (cs : List Char) : Option (Nat × List Char) :=
  let digits := (cs.takeWhile Char.isDigit).take most
  if digits.length < least then none
  else some (digits.foldl (fun n c => 10 * n + (c.toNat - '0'.toNat)) 0, cs.drop digits.length)

/-- The rest of a text after a given character. -/
def takeChar? (c : Char) : List Char → Option (List Char)
  | [] => none
  | d :: cs => if d = c then some cs else none

/-- Reads a year: up to four digits, or a sign and any number of digits. -/
def takeYear? (cs : List Char) : Option (Int × List Char) :=
  match Text.trimStart cs with
  | '-' :: cs => (takeNumber? 1 cs.length cs).map fun (n, cs) => (-(n : Int), cs)
  | '+' :: cs => (takeNumber? 1 cs.length cs).map fun (n, cs) => ((n : Int), cs)
  | cs => (takeNumber? 1 4 cs).map fun (n, cs) => ((n : Int), cs)

/-- Reads a month or a day: one or two digits. -/
def takeTwo? (cs : List Char) : Option (Nat × List Char) :=
  takeNumber? 1 2 (Text.trimStart cs)

/-- Reads a date.  White space may stand before each of the numbers, and numbers may be
shorter than written. -/
def read? (cs : List Char) : Option Date := do
  let (year, cs) ← takeYear? cs
  let cs ← takeChar? '-' cs
  let (month, cs) ← takeTwo? cs
  let cs ← takeChar? '-' cs
  let (day, cs) ← takeTwo? cs
  if cs = [] then of? year month day else none

end Date

end ApiContract
