import LineGrammar.Check.Fault
import LineGrammar.Network.Directions
import LineGrammar.Network.Node
import LineGrammar.Network.Sections

/-!
The grammars of puzzle files, and the tasks that checking a file comes to: the directions as one
text, and every node line on its own. Lines of blanks alone are no tasks.
-/

namespace LineGrammar

/-- The grammars that a file can be checked against. -/
inductive Grammar where
  /-- One line of directions. -/
  | directions
  /-- A node on every line. -/
  | nodes
  /-- Directions, a blank line, and node lines. -/
  | network
  deriving DecidableEq, Repr

/-- What a text is checked for. -/
inductive Role where
  | directions
  | node
  deriving DecidableEq, Repr

/-- A text to check, with the number of the line it stands for. -/
structure Task where
  line : Nat
  role : Role
  text : Text
  deriving DecidableEq, Repr

namespace Task

/-- The value of a text that matches, as it is reported. -/
def answer (task : Task) : Except ParseError Text :=
  match task.role with
  | .directions => Directions.parse task.text
  | .node => (Node.parse task.text).map Node.text

/-- The tasks of a block of node lines that begins on the given line. -/
def ofNodes (first : Nat) (block : Text) : List Task :=
  ((Text.numberedFrom first block.lines).filter fun line => !line.2.isBlank).map
    fun line => ⟨line.1, .node, line.2⟩

/-- The task of a block of directions. It stands for the first line with content. -/
def ofDirections (block : Text) : Task := ⟨block.firstContentLine, .directions, block⟩

end Task

/-- The tasks that checking a text comes to. -/
def Grammar.tasks (t : Text) : Grammar → Except CheckFault (List Task)
  | directions => .ok [Task.ofDirections t]
  | nodes => .ok (Task.ofNodes 1 t)
  | network =>
    match Sections.split t with
    | none => .error (.missingSection "node".toList)
    | some s => .ok (Task.ofDirections s.directions :: Task.ofNodes s.firstNodeLine s.nodes)

end LineGrammar
