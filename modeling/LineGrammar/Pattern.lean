import LineGrammar.Parser
import LineGrammar.Regex.Reader
import LineGrammar.Regex.Search

/-!
Parsers from regular expressions. The expression is put into a group after an anchor, as text, and
the leftmost match of the result is looked for. A match must not be empty; what is consumed reaches
from the start of the input to the end of the match.
-/

namespace LineGrammar

/-- The automaton of a regular expression with the name that diagnostics call it by. -/
structure Pattern where
  name : Text
  automaton : Automaton

namespace Pattern

/-- The text of the anchored group around an expression. -/
def anchored (expression : Text) : Text := "^(?:".toList ++ expression ++ ")".toList

/-- Reads the expression of a pattern. -/
def compile (name expression : Text) : Except Regex.Fault Pattern := do
  .ok ⟨name, (← Regex.read (anchored expression)).automaton⟩

/-- The pattern of an expression that is known to be well formed. -/
def ofValid (name expression : Text)
    (valid : (Regex.read (anchored expression)).isOk = true) : Pattern :=
  ⟨name, match h : Regex.read (anchored expression) with
    | .ok regex => regex.automaton
    | .error _ => absurd valid (by simp [h, Except.isOk, Except.toBool])⟩

end Pattern

/-- Everything up to the end of the leftmost match, which must not be empty. -/
def Parser.pattern (p : Pattern) : Parser .text := fun input =>
  match p.automaton.search input with
  | some ⟨start, length⟩ =>
    if length = 0 then .error (.noMatch p.name input)
    else .ok ⟨input.take (start + length), input.drop (start + length)⟩
  | none => .error (.noMatch p.name input)

end LineGrammar
