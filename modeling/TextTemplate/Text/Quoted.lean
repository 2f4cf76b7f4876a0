import TextTemplate.Unicode.Graphic

/-!
# Quoted text

Text is quoted so that all of it can be seen: it stands between two quotes, and every character that
would be misread or would not show is written as an escape sequence, which begins with a backslash.

## Main definitions

* `Quoted.escape`: how one character is written between quotes of a given kind.
* `Quoted.string`: a text between double quotes.
* `Quoted.char`: a character between single quotes.
-/

namespace TextTemplate.Quoted

/-- The escape sequence of a character by its code point, in hexadecimal digits between braces. -/
def codePoint (c : Char) : List Char :=
  '\\' :: 'u' :: '{' :: (Nat.toDigits 16 c.toNat ++ ['}'])

/-- How a character is written between two quotes: the quote itself, the backslash and four control
characters have an escape sequence of one letter or sign, other characters that do not show have
their code point, and the rest stand for themselves. -/
def escape (quote c : Char) : List Char :=
  if c = quote ∨ c = '\\' then ['\\', c]
  else if c = '\x00' then ['\\', '0']
  else if c = '\t' then ['\\', 't']
  else if c = '\r' then ['\\', 'r']
  else if c = '\n' then ['\\', 'n']
  else if Graphic.isGraphic c then [c]
  else codePoint c

/-- A text between two quotes. -/
def enclose (quote : Char) (cs : List Char) : List Char :=
  quote :: (cs.flatMap (escape quote) ++ [quote])

/-- A text between double quotes. -/
def string (s : String) : String :=
  String.ofList (enclose '"' s.toList)

/-- A character between single quotes. -/
def char (c : Char) : String :=
  String.ofList (enclose '\'' [c])

end TextTemplate.Quoted
