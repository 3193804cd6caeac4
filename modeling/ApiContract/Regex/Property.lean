/-
# Properties in patterns

A pattern may name characters by a property.  Some properties are tables, and some are put
together from others.
-/
import ApiContract.Regex.Class
import ApiContract.Unicode.Age
import ApiContract.Unicode.Binary
import ApiContract.Unicode.Break
import ApiContract.Unicode.Script

namespace ApiContract.CharClass

/-! ## Categories and scripts -/

/-- The categories by their long names, with the codes that make them up. -/
def categoryNames : List (String × List String) := [
  ("casedletter", ["Lu", "Ll", "Lt"]), ("lc", ["Lu", "Ll", "Lt"]),
  ("closepunctuation", ["Pe"]), ("connectorpunctuation", ["Pc"]),
  ("control", ["Cc"]), ("cntrl", ["Cc"]), ("currencysymbol", ["Sc"]),
  ("dashpunctuation", ["Pd"]), ("decimalnumber", ["Nd"]), ("digit", ["Nd"]),
  ("enclosingmark", ["Me"]), ("finalpunctuation", ["Pf"]), ("format", ["Cf"]),
  ("initialpunctuation", ["Pi"]), ("letter", ["L"]), ("letternumber", ["Nl"]),
  ("lineseparator", ["Zl"]), ("lowercaseletter", ["Ll"]), ("mark", ["M"]),
  ("combiningmark", ["M"]), ("mathsymbol", ["Sm"]), ("modifierletter", ["Lm"]),
  ("modifiersymbol", ["Sk"]), ("nonspacingmark", ["Mn"]), ("number", ["N"]),
  ("openpunctuation", ["Ps"]), ("other", ["C"]), ("otherletter", ["Lo"]),
  ("othernumber", ["No"]), ("otherpunctuation", ["Po"]), ("othersymbol", ["So"]),
  ("paragraphseparator", ["Zp"]), ("privateuse", ["Co"]), ("punctuation", ["P"]),
  ("punct", ["P"]), ("separator", ["Z"]), ("spaceseparator", ["Zs"]),
  ("spacingmark", ["Mc"]), ("surrogate", ["Cs"]), ("symbol", ["S"]),
  ("titlecaseletter", ["Lt"]), ("unassigned", ["Cn"]), ("uppercaseletter", ["Lu"])]

/-- The codes of the categories, and of the classes of them. -/
def categoryCodes : List String := [
  "C", "Cc", "Cf", "Cn", "Co", "Cs", "L", "Ll", "Lm", "Lo", "Lt", "Lu", "M", "Mc", "Me",
  "Mn", "N", "Nd", "Nl", "No", "P", "Pc", "Pd", "Pe", "Pf", "Pi", "Po", "Ps", "S", "Sc",
  "Sk", "Sm", "So", "Z", "Zl", "Zp", "Zs"]

/-- The characters of some categories. -/
def ofCategories (codes : List String) : CharClass :=
  table (codes.flatMap Unicode.rangesOf)

/-- The class of a category; the name is in lower case. -/
def ofCategory? (name : String) : Option CharClass :=
  match name with
  | "any" => some any
  | "ascii" => some (range 0 0x7F)
  | "assigned" => some (complement (ofCategories ["Cn"]))
  | _ =>
    match categoryCodes.find? fun code => Text.lowerAscii code = name with
    | some code => some (ofCategories [code])
    | Option.none => (categoryNames.lookup name).map ofCategories

/-- The class of a script; the name is in lower case. -/
def ofScript? (name : String) : Option CharClass :=
  (Unicode.rangesOfScript? name).map table

/-- The class of the characters that are used in a script; the name is in lower case.  What is
common to scripts is so unless it is used in some of them only. -/
def ofExtensions? (name : String) : Option CharClass :=
  (ofScript? name).map fun own =>
    if ["common", "zyyy", "inherited", "zinh", "qaai"].contains name then
      diff own (table (Unicode.extensions.flatMap Prod.snd))
    else union own (table (Unicode.extensionsOf name))

/-! ## Properties that characters have or have not -/

/-- The class of a property that a table decides. -/
def binary (name : String) : CharClass :=
  table ((Unicode.rangesOfBinary? name).getD [])

/-- The characters in lower case. -/
def lowercase : CharClass :=
  union (ofCategories ["Ll"]) (table Unicode.otherLowercase)

/-- The characters in upper case. -/
def uppercase : CharClass :=
  union (ofCategories ["Lu"]) (table Unicode.otherUppercase)

/-- The characters that are capitals, or begin with one. -/
def capital : CharClass :=
  union uppercase (ofCategories ["Lt"])

/-- The letters that have a capital for headlines only. -/
def headlineLetters : CharClass :=
  union (range 0x10D0 0x10FA) (range 0x10FD 0x10FF)

/-- What extends the character before it. -/
def extending : CharClass :=
  union (ofCategories ["Mn", "Me"]) (table Unicode.otherExtend)

/-- What patterns are written with. -/
def patternSigns : CharClass :=
  union (binary "patternsyntax") (binary "patternwhitespace")

/-- What begins an identifier. -/
def idStart : CharClass :=
  diff (union (ofCategories ["L", "Nl"]) (binary "otheridstart")) patternSigns

/-- What continues an identifier. -/
def idContinue : CharClass :=
  diff (ofList [idStart, ofCategories ["Mn", "Mc", "Nd", "Pc"], binary "otheridcontinue"])
    patternSigns

/-- The class of a property that a character has or has not; the name is in lower case. -/
def ofFlag? (name : String) : Option CharClass :=
  match name with
  | "alphabetic" | "alpha" => some alphabetic
  | "lowercase" | "lower" => some lowercase
  | "uppercase" | "upper" => some uppercase
  | "cased" => some (union lowercase capital)
  | "caseignorable" | "ci" =>
    some (union (ofCategories ["Mn", "Me", "Cf", "Lm", "Sk"]) (table Unicode.otherCaseIgnorable))
  | "changeswhenlowercased" | "cwl" => some (inter (binary "cwcm") capital)
  | "changeswhenuppercased" | "cwu" => some (diff (binary "cwcm") uppercase)
  | "changeswhentitlecased" | "cwt" =>
    some (union (diff (binary "cwcm") (union capital headlineLetters))
      (ofList [range 0x1C4 0x1C4, range 0x1C7 0x1C7, range 0x1CA 0x1CA, range 0x1F1 0x1F1]))
  | "changeswhencasefolded" | "cwcf" =>
    some (union (diff (inter (binary "cwcm") capital) (range 0x13A0 0x13F5))
      (table Unicode.otherCasefolded))
  | "graphemeextend" | "grext" => some extending
  | "graphemebase" | "grbase" =>
    some (complement (union (ofCategories ["Cc", "Cf", "Cs", "Co", "Cn", "Zl", "Zp"]) extending))
  | "idstart" | "ids" => some idStart
  | "idcontinue" | "idc" => some idContinue
  | "xidstart" | "xids" => some (diff idStart (table Unicode.unstableStart))
  | "xidcontinue" | "xidc" => some (diff idContinue (table Unicode.unstableContinue))
  | "math" => some (union (ofCategories ["Sm"]) (binary "othermath"))
  | "whitespace" | "wspace" | "space" => some space
  | "otheralphabetic" | "oalpha" => some (table Unicode.otherAlphabetic)
  | "otherlowercase" | "olower" => some (table Unicode.otherLowercase)
  | "otheruppercase" | "oupper" => some (table Unicode.otherUppercase)
  | "othergraphemeextend" | "ogrext" => some (table Unicode.otherExtend)
  | _ => (Unicode.rangesOfBinary? name).map table

/-! ## Properties that have values -/

/-- The class of the characters in a place between characters; the name is in lower case. -/
def ofGraphemeBreak? (name : String) : Option CharClass :=
  match name with
  | "extend" | "ex" => some (union extending (binary "emojimodifier"))
  | "lv" => some (table Unicode.openSyllables)
  | "lvt" => some (diff (range 0xAC00 0xD7A3) (table Unicode.openSyllables))
  | _ => (Unicode.rangesNamed? Unicode.graphemeBreaks name).map table

/-- The class of the characters in a place between words; the name is in lower case. -/
def ofWordBreak? (name : String) : Option CharClass :=
  let listed (name : String) := table ((Unicode.rangesNamed? Unicode.wordBreaks name).getD [])
  let extend :=
    diff (ofList [extending, ofCategories ["Mc"], binary "emojimodifier"]) (listed "zwj")
  match name with
  | "extend" => some extend
  | "aletter" | "le" =>
    let others := ofList [binary "ideographic", listed "katakana", table Unicode.unspacedLetters,
      table ((Unicode.rangesOfScript? "hiragana").getD []), extend, listed "hebrewletter"]
    some (diff (union alphabetic (table Unicode.otherWordLetters)) others)
  | _ => (Unicode.rangesNamed? Unicode.wordBreaks name).map table

/-- The class of the characters in a place between sentences; the name is in lower case. -/
def ofSentenceBreak? (name : String) : Option CharClass :=
  let extend := ofList [extending, ofCategories ["Mc"], binary "joincontrol"]
  let lower := diff lowercase (union extending headlineLetters)
  let upper := diff capital (union (range 0x1C90 0x1CBA) (range 0x1CBD 0x1CBF))
  match name with
  | "extend" | "ex" => some extend
  | "lower" | "lo" => some lower
  | "upper" | "up" => some upper
  | "oletter" | "le" =>
    some (diff (union alphabetic (one '\u05f3')) (ofList [lower, upper, extend]))
  | _ => (Unicode.rangesNamed? Unicode.sentenceBreaks name).map table

/-! ## Properties by their names -/

/-- The name of a property as it is looked up: in lower case, without blanks, underscores
and hyphens, and without `is` before it. -/
def looseName (name : List Char) : String :=
  let lower := name.map Char.toLower
  let bare := (Text.dropPrefix? ['i', 's'] lower).getD lower
  let kept := bare.filter fun c => c.toNat < 128 && !(c == ' ' || c == '_' || c == '-')
  if kept = ['c'] && lower ≠ bare then "isc" else String.ofList kept

/-- The class of a property that is given by its value alone. -/
def ofProperty? (name : List Char) : Option CharClass :=
  let name := looseName name
  let flag := if ["cf", "sc", "lc"].contains name then Option.none else ofFlag? name
  flag <|> ofCategory? name <|> ofScript? name

/-- The class of the characters for which a property has a value. -/
def ofPropertyValue? (name value : List Char) : Option CharClass :=
  let value := looseName value
  match looseName name with
  | "generalcategory" | "gc" => ofCategory? value
  | "script" | "sc" => ofScript? value
  | "scriptextensions" | "scx" => ofExtensions? value
  | "age" => (Unicode.rangesOfAge? value).map table
  | "graphemeclusterbreak" | "gcb" => ofGraphemeBreak? value
  | "wordbreak" | "wb" => ofWordBreak? value
  | "sentencebreak" | "sb" => ofSentenceBreak? value
  | _ => Option.none

end ApiContract.CharClass
