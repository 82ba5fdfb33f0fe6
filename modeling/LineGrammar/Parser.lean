import LineGrammar.Parsed
import LineGrammar.Yield

/-!
Parsers as functions, and the ways to put them together. A parser consumes a prefix of its input
or refuses it; any function of this type is a parser. Running one after another stops at the first
failure and merges the two values by the shape rule.
-/

namespace LineGrammar

/-- A parser that yields `y`. -/
abbrev Parser (y : Yield) : Type := Text → ParseResult y.Value

namespace Parser

variable {a b y : Yield}

/-- Runs the parser and drops its value. -/
def skip (p : Parser y) : Parser .nothing :=
  fun input => ParseResult.mapValue (fun _ => ()) (p input)

/-- Runs `p`, then `q` on what `p` left. -/
def followedBy (p : Parser a) (q : Parser b) : Parser (a.merge b) :=
  fun input => ParseResult.andThen (p input) fun x rest =>
    ParseResult.mapValue (Yield.join a b x) (q rest)

/-- Applies a function to the plain value; the outcome is one value. -/
def map {β : Type} (f : y.Value → β) (p : Parser y) : Parser (.mapped β) :=
  fun input => ParseResult.mapValue f (p input)

/-- Parses the whole input. -/
def complete (p : Parser y) : Text → Except ParseError y.Value :=
  fun input => ParseResult.complete (p input)

end Parser

end LineGrammar
