/-
# Quoted texts in messages

A text is shown between quotes.  Quotes and backslashes are escaped, and so are characters
that would not show, or that would change the character before them.
-/
import ApiContract.Unicode.Property
import ApiContract.Text.Letters

namespace ApiContract.Text

/-- How a character is shown. -/
def shown (c : Char) : List Char :=
  match c with
  | '\x00' => ['\\', '0']
  | '\t' => ['\\', 't']
  | '\n' => ['\\', 'n']
  | '\r' => ['\\', 'r']
  | '"' => ['\\', '"']
  | '\\' => ['\\', '\\']
  | c =>
    if 0x20 ≤ c.toNat ∧ c.toNat < 0x7F then [c]
    else if Unicode.extendsGrapheme c || !Unicode.isPrintable c then
      '\\' :: 'u' :: '{' :: (hexDigits c.toNat ++ ['}'])
    else [c]

/-- A text as messages show it. -/
def inQuotes (s : String) : String :=
  String.ofList ('"' :: (s.toList.flatMap shown ++ ['"']))

end ApiContract.Text
