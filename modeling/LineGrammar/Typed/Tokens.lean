import LineGrammar.Typed

/-!
The values of typed pipelines as tokens. A pipeline that maps nothing yields the same tree that its
erasure produces; `Yield.tokens` forgets the types of the tree, and `Yield.outputTokens` reads the
tree off the shapes that an output is made of. Values made by a mapping are of any type and have no
tokens.
-/

namespace LineGrammar

/-- The tokens of a value. -/
def Content.tokens : (content : Content) → content.Value → Tokens
  | char, c => .char c
  | text, t => .text t
  | number, n => .number n
  | mapped _, _ => .nothing
  | pair first second, v => .pair (first.tokens v.1) (second.tokens v.2)

/-- The tokens of what a parser yields. -/
def Yield.tokens : (y : Yield) → y.Value → Tokens
  | nothing, _ => .nothing
  | carries content, v => content.tokens v

/-- The tokens of content in its shape. -/
def Content.outputTokens : (content : Content) → content.Output → Tokens
  | char, x => .char x.value
  | text, x => .text x.value
  | number, x => .number x.value
  | mapped _, _ => .nothing
  | pair first second, x => .pair (first.outputTokens x.first) (second.outputTokens x.second)

/-- The tokens of an output: a skipped one is nothing, one value is a leaf, a pair is a pair. -/
def Yield.outputTokens : (y : Yield) → y.Output → Tokens
  | nothing, _ => .nothing
  | carries content, x => content.outputTokens x

theorem Content.tokens_plain (content : Content) (x : content.Output) :
    content.tokens (content.plain x) = content.outputTokens x := by
  induction content with
  | char | text | number | mapped => rfl
  | pair first second ihFirst ihSecond =>
    show Tokens.pair (first.tokens (first.plain x.first)) (second.tokens (second.plain x.second)) =
      Tokens.pair (first.outputTokens x.first) (second.outputTokens x.second)
    rw [ihFirst, ihSecond]

/-- The plain value has the tokens of its output. -/
theorem Yield.tokens_plain (y : Yield) (x : y.Output) :
    y.tokens (y.plain x) = y.outputTokens x := by
  cases y with
  | nothing => rfl
  | carries content => exact content.tokens_plain x

/-- Whether no value is mapped anywhere in the pipeline. -/
def Typed.mapFree : {y : Yield} → Typed y → Bool
  | _, map _ _ => false
  | _, skip p => p.mapFree
  | _, followedBy p q => p.mapFree && q.mapFree
  | _, _ => true

end LineGrammar
