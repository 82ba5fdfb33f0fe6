import LineGrammar.Typed

/-!
The nodes of a network, one to a line: `AAA = (BBB, CCC)`. Names are runs of ASCII letters; blanks
stand around the equals sign and after the comma, and may stand at the end of the line.
-/

namespace LineGrammar

/-- A node with the neighbours to its left and to its right. -/
structure Node where
  name : Text
  left : Text
  right : Text
  deriving DecidableEq, Repr

namespace Node

/-- A node as it is reported. -/
def text (node : Node) : Text :=
  node.name ++ " -> (".toList ++ node.left ++ ", ".toList ++ node.right ++ ")".toList

/-- The neighbours in their parentheses. -/
def neighbours : Typed (.carries (.pair .text .text)) :=
  .followedBy (.skip (.character '(')) <|
  .followedBy .word <|
  .followedBy (.skip (.character ',')) <|
  .followedBy (.skip .whitespace) <|
  .followedBy .word (.skip (.character ')'))

/-- A whole node line. -/
def line : Typed (.carries (.pair .text (.pair .text .text))) :=
  .followedBy .word <|
  .followedBy (.skip .whitespace) <|
  .followedBy (.skip (.character '=')) <|
  .followedBy (.skip .whitespace) <|
  .followedBy neighbours .endOfInput

/-- Reads a node line; the blanks at its end do not count. -/
def parse (t : Text) : Except ParseError Node := do
  let (name, left, right) ← line.parseComplete t.trimEnd
  .ok ⟨name, left, right⟩

end Node

end LineGrammar
