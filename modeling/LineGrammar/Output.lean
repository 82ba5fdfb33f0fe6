import LineGrammar.Yield

/-!
Values in their shapes. While typed parsers run one after another, the value of each stands in its
shape: skipped, one value, or two shapes in input order. Outputs are merged by the shape rule, and
the plain value is taken out of its shape when a parser has run or when a function is applied.
`Yield.plain_merge` says that outputs merge as their plain values join.
-/

namespace LineGrammar

/-- The output of a parser that yields nothing. -/
inductive Skipped where
  | skipped

/-- One value. -/
structure Single (α : Type) where
  value : α

/-- Two outputs that carry something, in input order. -/
structure Pair (α β : Type) where
  first : α
  second : β

/-- The content in its shape. -/
def Content.Output : Content → Type
  | char => Single Char
  | text => Single Text
  | number => Single UInt64
  | mapped α => Single α
  | pair first second => Pair first.Output second.Output

/-- Takes content out of its shape. -/
def Content.plain : (content : Content) → content.Output → content.Value
  | char, x | text, x | number, x | mapped _, x => x.value
  | pair first second, x => (first.plain x.first, second.plain x.second)

namespace Yield

/-- What a parser hands on. -/
def Output : Yield → Type
  | nothing => Skipped
  | carries content => content.Output

/-- Takes a value out of its shape. -/
def plain : (y : Yield) → y.Output → y.Value
  | nothing, _ => ()
  | carries content, x => content.plain x

/-- One output after another, by the shape rule. -/
def mergeOutputs : (a b : Yield) → a.Output → b.Output → (a.merge b).Output
  | nothing, _, _, y => y
  | carries _, nothing, x, _ => x
  | carries _, carries _, x, y => ⟨x, y⟩

theorem plain_merge (a b : Yield) (x : a.Output) (y : b.Output) :
    (a.merge b).plain (mergeOutputs a b x y) = join a b (a.plain x) (b.plain y) := by
  cases a with
  | nothing => rfl
  | carries first => cases b <;> rfl

end Yield

end LineGrammar
