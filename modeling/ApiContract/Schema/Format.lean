/-
# Formats

A format checks the values it applies to and may replace a string by the typed leaf that
the string stands for.  Values it does not apply to pass as they are.
-/
import ApiContract.Value.Text
import ApiContract.Text.Quoted
import ApiContract.Url.Reader

namespace ApiContract

/-- What is wrong with a value of a format. -/
inductive FormatFault where
  /-- An integer is out of the range of the format. -/
  | outOfRange (value : Int) (format : String)
  /-- No date or no timestamp. -/
  | date
  /-- No text in base 64. -/
  | base64
  /-- No address. -/
  | address
  /-- No URI. -/
  | uri
  /-- Another fault, in words. -/
  | invalid (reason : String)
deriving DecidableEq, Repr

/-- The wording for an integer out of range. -/
def rangeText (value : Int) (format : String) : String :=
  s!"{value} is out of {format} range"

/-- A check of a value; the result is a value that replaces it, if there is one. -/
abbrev FormatCheck := Value → Except FormatFault (Option Value)

/-- The formats that are known. -/
structure Formats where
  /-- The checks by name. -/
  checks : List (String × FormatCheck)

/-- The set of rules that formats are taken from. -/
inductive Dialect where
  /-- The fourth draft. -/
  | draft4
  /-- The fifth draft. -/
  | draft5
  /-- The dialect of interface descriptions. -/
  | oas3
deriving DecidableEq, Repr

namespace Format

/-! ## Checks -/

/-- A check of strings alone. -/
def onStrings (check : String → Except FormatFault (Option Value)) : FormatCheck
  | .string s => check s
  | _ => .ok none

/-- A check that replaces the strings it can read. -/
def reading (fault : FormatFault) (read : List Char → Option Value) : FormatCheck :=
  onStrings fun s =>
    match read s.toList with
    | some v => .ok (some v)
    | none => .error fault

/-- A check that leaves strings as they are. -/
def testing (fault : FormatFault) (test : List Char → Bool) : FormatCheck :=
  onStrings fun s => if test s.toList then .ok none else .error fault

/-- Integers between two bounds. -/
def within (least greatest : Int) (name : String) : FormatCheck
  | .integer n =>
    if n.toInt < least ∨ greatest < n.toInt then .error (.outOfRange n.toInt name) else .ok none
  | _ => .ok none

/-- Integers of 32 bits. -/
def int32 : FormatCheck := within (-2147483648) 2147483647 "int32"

/-- Integers of 64 bits. -/
def int64 : FormatCheck := within Number.least64 Number.greatest64 "int64"

/-- Bytes in base 64. -/
def byte : FormatCheck := reading .base64 fun cs => (Base64.decode? cs).map .bytes

/-- Dates. -/
def date : FormatCheck := reading .date fun cs => (Date.read? cs).map .date

/-- Timestamps with an offset. -/
def dateTime : FormatCheck := reading .date fun cs => (Timestamp.read? cs).map .dateTime

/-- Mail addresses, as far as they contain an `@`. -/
def email : FormatCheck := testing (.invalid "invalid email format") (·.contains '@')

/-- Whether a text is a name of a host: letters, digits, points and hyphens, the first a
letter or a digit, between 2 and 256 of them. -/
def isHostname (cs : List Char) : Bool :=
  cs.head?.any Char.isAlphanum && 2 ≤ cs.length && cs.length ≤ 256 &&
    cs.all fun c => c.isAlphanum || c == '.' || c == '-'

/-- Names of hosts. -/
def hostname : FormatCheck := testing (.invalid "invalid hostname format") isHostname

/-- Addresses of version 4. -/
def ipv4 : FormatCheck := reading .address fun cs => (Address.readV4? cs).map .ip

/-- Addresses of version 6. -/
def ipv6 : FormatCheck := reading .address fun cs => (Address.readV6? cs).map .ip

/-- URLs. -/
def uri : FormatCheck := testing .uri fun cs => (Url.read? cs).isSome

/-- The base against which references are read. -/
def referenceBase : Option Url := Url.read? "http://reference.invalid/".toList

/-- References, relative ones among them. -/
def uriReference : FormatCheck :=
  testing .uri fun cs => (Url.readAgainst? referenceBase cs).isSome

end Format

namespace Formats

/-- No formats at all. -/
def empty : Formats := ⟨[]⟩

/-- The formats of the fourth draft. -/
def draft4 : Formats := ⟨[
  ("date-time", Format.dateTime),
  ("email", Format.email),
  ("hostname", Format.hostname),
  ("ipv4", Format.ipv4),
  ("ipv6", Format.ipv6),
  ("uri", Format.uri)]⟩

/-- The formats of the fifth draft: those of the fourth and references. -/
def draft5 : Formats := ⟨draft4.checks ++ [
  ("uri-reference", Format.uriReference),
  ("uriref", Format.uriReference)]⟩

/-- The formats of interface descriptions: those of the fifth draft, the integers of fixed
width, bytes and dates. -/
def oas3 : Formats := ⟨draft5.checks ++ [
  ("int32", Format.int32),
  ("int64", Format.int64),
  ("byte", Format.byte),
  ("date", Format.date)]⟩

/-- Whether a format is known. -/
def has (formats : Formats) (name : String) : Bool :=
  (formats.checks.lookup name).isSome

/-- Checks a value; every value passes a format that is not known. -/
def check (formats : Formats) (name : String) (v : Value) : Except FormatFault (Option Value) :=
  match formats.checks.lookup name with
  | some check => check v
  | none => .ok none

/-- The text that shows which formats are known. -/
def text (formats : Formats) : String :=
  let names := (formats.checks.map Prod.fst).mergeSort (fun s t => decide (s ≤ t))
  "FormatRegistry \x7b formats: [" ++ Text.joinStrings ", " (names.map Text.inQuotes) ++ "] \x7d"

end Formats

/-- The formats of a dialect. -/
def Dialect.formats : Dialect → Formats
  | draft4 => Formats.draft4
  | draft5 => Formats.draft5
  | oas3 => Formats.oas3

end ApiContract
