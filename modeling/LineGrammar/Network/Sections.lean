import LineGrammar.Text.Lines

/-!
The two sections of a network file: the directions, a blank line, and the nodes.
-/

namespace LineGrammar

/-- A network file cut at its blank line. -/
structure Sections where
  directions : Text
  nodes : Text
  /-- The number of the line that the nodes begin on. -/
  firstNodeLine : Nat
  deriving DecidableEq, Repr

namespace Sections

/-- The sections around a cut. The directions take up the lines they are on, at least one, and
the blank line follows. -/
def ofCut (cut : Text × Text) : Sections := ⟨cut.1, cut.2, cut.1.count '\n' + 3⟩

/-- Cuts at the first two line feeds in a row or, where there are none, at the first two pairs of a
carriage return and a line feed. -/
def split (t : Text) : Option Sections :=
  match t.cutAt "\n\n".toList with
  | some cut => some (ofCut cut)
  | none => (t.cutAt "\r\n\r\n".toList).map ofCut

end Sections

end LineGrammar
