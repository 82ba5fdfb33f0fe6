import LineGrammar.Check.Source
import LineGrammar.CompositionError

/-!
Why a check ended without success.
-/

namespace LineGrammar

/-- Why a check ended without success. -/
inductive CheckFault where
  /-- The input could not be read. -/
  | unreadable (path : Text) (fault : ReadFault)
  /-- A grammar could not be built. -/
  | grammar (error : CompositionError)
  /-- A line did not match the grammar. -/
  | line (number : Nat) (error : ParseError)
  /-- A section of the input is missing. -/
  | missingSection (name : Text)
  /-- Lines failed in a check that goes on after failures. -/
  | failures (count : Nat)
  deriving DecidableEq, Repr

/-- The wording of a fault. -/
def CheckFault.message : CheckFault → Text
  | unreadable path fault => "Failed to read ".toList ++ path ++ ": ".toList ++ fault.message
  | grammar error => "Grammar error: ".toList ++ error.message
  | line number error => "Line ".toList ++ Text.ofNat number ++ ": ".toList ++ error.message
  | missingSection name => "Missing ".toList ++ name ++ " section in input".toList
  | failures count => Text.ofNat count ++ " line(s) failed to parse".toList

end LineGrammar
