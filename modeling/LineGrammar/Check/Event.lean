import LineGrammar.Check.Grammar

/-!
What a check writes to the log: one event for every line with a result, and one at the end. An
event is recorded with a level, the part of the program it comes from, a message and named fields.
-/

namespace LineGrammar

/-- How much an event matters, from the most to the least. -/
inductive Level where
  | error
  | warn
  | info
  | debug
  | trace
  deriving DecidableEq, Repr

namespace Level

/-- The number of levels that matter at least as much. -/
def rank : Level → Nat
  | error => 1
  | warn => 2
  | info => 3
  | debug => 4
  | trace => 5

/-- The name of a level in the log. -/
def label : Level → Text
  | error => "ERROR".toList
  | warn => "WARN".toList
  | info => "INFO".toList
  | debug => "DEBUG".toList
  | trace => "TRACE".toList

end Level

/-- An event as the log shows it. -/
structure Record where
  level : Level
  target : Text
  message : Text
  fields : List (Text × Text)
  deriving DecidableEq, Repr

/-- What is worth telling about a check. -/
inductive Event where
  /-- The input has been read and the check begins. -/
  | started (path : Text) (grammar : Grammar) (keepGoing : Bool)
  | parsed (line : Nat) (value : Text)
  | failed (line : Nat) (error : ParseError)
  /-- All lines have been looked at. -/
  | finished (lines failed : Nat)
  deriving DecidableEq, Repr

/-- The name of a grammar in the log. -/
def Grammar.label : Grammar → Text
  | directions => "Directions".toList
  | nodes => "Nodes".toList
  | network => "Network".toList

namespace Event

/-- The part of the program that reads the input. -/
def programTarget : Text := "aoc_parse".toList

/-- The part of the program that checks the lines. -/
def checkTarget : Text := "aoc_parse::executor".toList

/-- An event as the log shows it. -/
def record : Event → Record
  | started path grammar keepGoing =>
    ⟨.info, programTarget, "parsing input".toList,
      [("path".toList, path), ("grammar".toList, grammar.label),
        ("keep_going".toList, if keepGoing then "true".toList else "false".toList)]⟩
  | parsed line value =>
    ⟨.debug, checkTarget, "parsed line".toList,
      [("line".toList, Text.ofNat line), ("value".toList, value)]⟩
  | failed line error =>
    ⟨.warn, checkTarget, "line failed to parse".toList,
      [("line".toList, Text.ofNat line), ("error".toList, error.message)]⟩
  | finished lines failures =>
    ⟨.info, checkTarget, "finished parsing".toList,
      [("lines".toList, Text.ofNat lines), ("failed".toList, Text.ofNat failures)]⟩

end Event

end LineGrammar
