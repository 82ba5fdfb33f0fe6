/-!
Result shapes. A parser produces nothing, one value, or an ordered pair of values, and the shape
of two results in a row follows from their shapes: a result that carries nothing is dropped, and
two results that carry something make a pair.
-/

namespace LineGrammar

/-- What a parser produces, seen from outside. -/
inductive Shape where
  | noValue
  | single
  | pair
  deriving DecidableEq, Repr

namespace Shape

/-- The shape of one result after another. -/
def combine : Shape → Shape → Shape
  | noValue, second => second
  | first, noValue => first
  | _, _ => pair

/-- Whether a result of this shape holds data. -/
def carriesValue : Shape → Bool
  | noValue => false
  | single | pair => true

@[simp] theorem noValue_combine (s : Shape) : noValue.combine s = s := by cases s <;> rfl

@[simp] theorem combine_noValue (s : Shape) : s.combine noValue = s := by cases s <;> rfl

theorem combine_assoc (a b c : Shape) : (a.combine b).combine c = a.combine (b.combine c) := by
  cases a <;> cases b <;> cases c <;> rfl

end Shape

end LineGrammar
