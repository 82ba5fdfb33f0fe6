import LineGrammar.Check.Event
import LineGrammar.Command.Arguments

/-!
The settings of a check: the arguments with the input read and the level of the log chosen.
-/

namespace LineGrammar

/-- The level of the log for a number of requests for more. -/
def Level.ofVerbosity : Nat → Level
  | 0 => .warn
  | 1 => .info
  | 2 => .debug
  | _ => .trace

/-- Everything that a check depends on. -/
structure Settings where
  path : Text
  input : Text
  grammar : Grammar
  keepGoing : Bool
  quiet : Bool
  level : Level
  deriving DecidableEq, Repr

/-- Reads the input of the arguments. -/
def Settings.load (read : Text → Except ReadFault Bytes) (arguments : Arguments) :
    Except CheckFault Settings :=
  match read arguments.input >>= decodeText with
  | .ok input =>
    .ok ⟨arguments.input, input, arguments.grammar, arguments.keepGoing, arguments.quiet,
      Level.ofVerbosity arguments.verbosity⟩
  | .error fault => .error (.unreadable arguments.input fault)

end LineGrammar
