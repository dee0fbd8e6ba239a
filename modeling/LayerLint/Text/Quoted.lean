-- Quoted text: a text between quotes in which no character is hidden. The quote, the
-- backslash and the controls with a letter of their own are written with a backslash, and
-- every other hidden character by its code point.
import LayerLint.Text.Hidden

namespace LayerLint.Text

/-- The code point of a character in lower-case hexadecimal digits. -/
def codePointDigits (c : Char) : List Char := Nat.toDigits 16 c.toNat

/-- How a character stands between two quotes of the given kind. -/
def quoteEscape (quote c : Char) : List Char :=
  if c = Char.ofNat 0 then ['\\', '0']
  else if c = '\t' then ['\\', 't']
  else if c = '\r' then ['\\', 'r']
  else if c = '\n' then ['\\', 'n']
  else if c = '\\' then ['\\', '\\']
  else if c = quote then ['\\', c]
  else if isHidden c then ['\\', 'u', '\x7b'] ++ codePointDigits c ++ ['\x7d']
  else [c]

/-- The characters between two quotes. -/
def quoteChars (quote : Char) (cs : List Char) : List Char :=
  quote :: cs.flatMap (quoteEscape quote) ++ [quote]

/-- A text in double quotes. -/
def quoted (s : String) : String := String.ofList (quoteChars '"' s.toList)

/-- A character in single quotes. -/
def quotedChar (c : Char) : String := String.ofList (quoteChars '\'' [c])

end LayerLint.Text
