import LineGrammar.Text.CharLiteral

/-!
How a parser describes itself. A mapped parser names the parser inside; the function that it applies
has no description.
-/

namespace LineGrammar

/-- The description of the parser for one character. -/
def describeCharacter (expected : Char) : Text :=
  "Character \x7b expected: ".toList ++ Text.charLiteral expected ++ " \x7d".toList

/-- The description of a mapped parser with the given one inside. -/
def describeMapped (inner : Text) : Text :=
  "Map \x7b inner: ".toList ++ inner ++ ", .. \x7d".toList

end LineGrammar
