import LineGrammar.Character.Property

/-!
Character literals, for descriptions of parsers: a character between single quotes, escaped where it
would not be seen as itself. An escape is a letter after a backslash where there is one, else the
code point in hexadecimal digits.
-/

namespace LineGrammar.Text

/-- The characters that do not show as something of their own: those without a glyph, except the
space, and those that would combine with the quote before them, except the halfwidth sound
marks. -/
def hiddenSet : CharSet :=
  ((CharSet.unseen .seventeenth).diff (.single ' ')).union
    ((CharSet.graphemeExtend .seventeenth).diff (.range '\uff9e' '\uff9f'))

/-- A character as it stands between single quotes. -/
def escapedInQuotes (c : Char) : Text :=
  if c = '\x00' then "\\0".toList
  else if c = '\t' then "\\t".toList
  else if c = '\r' then "\\r".toList
  else if c = '\n' then "\\n".toList
  else if c = '\'' then "\\'".toList
  else if c = '\\' then "\\\\".toList
  else if hiddenSet.contains c then
    "\\u\x7b".toList ++ Nat.toDigits 16 c.toNat ++ "\x7d".toList
  else [c]

/-- A character literal. -/
def charLiteral (c : Char) : Text := '\'' :: escapedInQuotes c ++ ['\'']

end LineGrammar.Text
