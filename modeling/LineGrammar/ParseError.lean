import LineGrammar.Text.Decimal
import LineGrammar.Text.Quote

/-!
Why a text was refused, and why a parser could not be built. Each cause keeps what a reader needs
to find the place, since the remaining input is the only position there is; the wording is in
`ParseError.message` alone.
-/

namespace LineGrammar

/-- Why a parser refused its input. -/
inductive ParseError where
  /-- A character or literal was wanted and something else was there. -/
  | unexpectedCharacter (expected found : Text)
  /-- A run of at least one character was wanted and none was there. -/
  | emptyMatch (name found : Text)
  /-- The digits denote a number of more than 64 bits. -/
  | numberOutOfRange (digits : Text)
  /-- Input was left where it had to end. -/
  | trailingInput (found : Text)
  deriving DecidableEq, Repr

namespace ParseError

/-- The error for input left over. -/
def leftOver (residue : Text) : ParseError := .trailingInput residue.snippet

/-- The error for an empty match on the given input. -/
def noMatch (name input : Text) : ParseError := .emptyMatch name input.snippet

/-- The wording of an error. -/
def message : ParseError → Text
  | unexpectedCharacter expected found =>
    "Expected '".toList ++ expected ++ "', found ".toList ++ found.quoted
  | emptyMatch name found => "Could not parse ".toList ++ name ++ " from ".toList ++ found.quoted
  | numberOutOfRange digits => "Number ".toList ++ digits ++ " is out of range".toList
  | trailingInput found => "Expected end of input, found ".toList ++ found.quoted

end ParseError

end LineGrammar
