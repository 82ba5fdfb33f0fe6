import LineGrammar.Shape
import LineGrammar.Text

/-!
What a typed parser yields. A yield is a code for a type together with its shape: nothing, or
some content. Content never hides a part that carries nothing, because a pair is made of contents;
so the shape rule can be read off the code, and `Yield.join` merges two values by it.
`shape_merge` says that merging codes and merging shapes agree.
-/

namespace LineGrammar

/-- The data that a parser yields: one value, or a pair of contents. -/
inductive Content : Type 1 where
  | char
  | text
  | number
  | mapped (α : Type)
  | pair (first second : Content)

/-- What a parser yields: nothing, or some content. -/
inductive Yield : Type 1 where
  | nothing
  | carries (content : Content)

/-- The plain values of a content. -/
def Content.Value : Content → Type
  | char => Char
  | text => Text
  | number => UInt64
  | mapped α => α
  | pair first second => first.Value × second.Value

/-- The shape of a content. -/
def Content.shape : Content → Shape
  | pair _ _ => .pair
  | char | text | number | mapped _ => .single

namespace Yield

/-- One character. -/
abbrev char : Yield := .carries .char

/-- One text. -/
abbrev text : Yield := .carries .text

/-- One number. -/
abbrev number : Yield := .carries .number

/-- One value made from another. -/
abbrev mapped (α : Type) : Yield := .carries (.mapped α)

/-- The plain values of a yield; nothing is the unit. -/
def Value : Yield → Type
  | nothing => Unit
  | carries content => content.Value

/-- The shape of a yield. -/
def shape : Yield → Shape
  | nothing => .noValue
  | carries content => content.shape

/-- The yield of one parser after another. -/
def merge : Yield → Yield → Yield
  | nothing, second => second
  | carries first, nothing => carries first
  | carries first, carries second => carries (.pair first second)

/-- Two values in a row; the value of a part that yields nothing is dropped. -/
def join : (a b : Yield) → a.Value → b.Value → (a.merge b).Value
  | nothing, _, _, y => y
  | carries _, nothing, x, _ => x
  | carries _, carries _, x, y => (x, y)

theorem shape_merge (a b : Yield) : (a.merge b).shape = a.shape.combine b.shape := by
  cases a with
  | nothing => simp [merge, shape]
  | carries first =>
    cases b with
    | nothing => simp [merge, shape]
    | carries second => cases first <;> cases second <;> rfl

end Yield

end LineGrammar
