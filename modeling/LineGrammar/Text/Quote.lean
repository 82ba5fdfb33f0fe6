import LineGrammar.Text

/-!
How a diagnostic shows the place where parsing stopped: at most 32 characters of what was left,
in quotes, or the words `end of input` when nothing was left.
-/

namespace LineGrammar.Text

/-- The most characters of the remaining input that a diagnostic shows. -/
def snippetLength : Nat := 32

/-- The beginning of a text, marked with three dots when it goes on. -/
def snippet (t : Text) : Text :=
  if t.length ≤ snippetLength then t else t.take snippetLength ++ "...".toList

/-- The text in quotes; an empty one is called the end of the input. -/
def quoted (t : Text) : Text :=
  if t.isEmpty then "end of input".toList else "'".toList ++ t ++ "'".toList

end LineGrammar.Text
