import LineGrammar.Pattern
import LineGrammar.Text.Blank

/-!
The directions of a network: one run of the letters `L` and `R`, with any blanks around it.
-/

namespace LineGrammar.Directions

/-- A run of turns to the left and to the right. -/
def pattern : Pattern := Pattern.ofValid "directions".toList "[LR]+".toList (by decide)

/-- Reads directions; the blanks around them do not count. -/
def parse (t : Text) : Except ParseError Text := Parser.complete (Parser.pattern pattern) t.trim

end LineGrammar.Directions
