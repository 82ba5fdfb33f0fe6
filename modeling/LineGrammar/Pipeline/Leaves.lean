import LineGrammar.Pipeline

/-!
The flat view of a pipeline. Its primitives from left to right, each with a note whether its value
is kept, say everything about what the pipeline consumes and which values it produces; the nesting
only decides how the values are paired.
-/

namespace LineGrammar

/-- A primitive of a pipeline, and whether its value is part of the result. -/
structure Leaf where
  primitive : Pipeline
  kept : Bool

namespace Pipeline

/-- The primitives from left to right. The end of the input has no value, and what is skipped
loses its own. -/
def leaves : Pipeline → List Leaf
  | skip p => p.leaves.map fun leaf => ⟨leaf.primitive, false⟩
  | followedBy p q => p.leaves ++ q.leaves
  | endOfInput => [⟨endOfInput, false⟩]
  | primitive => [⟨primitive, true⟩]

/-- The number of values that the pipeline produces. -/
def keptCount (p : Pipeline) : Nat := p.leaves.countP Leaf.kept

@[simp] theorem leaves_followedBy (p q : Pipeline) :
    (followedBy p q).leaves = p.leaves ++ q.leaves := rfl

theorem keptCount_followedBy (p q : Pipeline) :
    (followedBy p q).keptCount = p.keptCount + q.keptCount := by
  simp [keptCount]

@[simp] theorem keptCount_skip (p : Pipeline) : (skip p).keptCount = 0 := by
  simp [keptCount, leaves, List.countP_map, Function.comp_def]

end Pipeline

/-- Runs primitives one after another, each on what the one before left, and collects the values
that are kept. -/
def runLeaves : List Leaf → Text → ParseResult (List Tokens)
  | [], input => .ok ⟨[], input⟩
  | leaf :: later, input =>
    ParseResult.andThen (leaf.primitive.parse input) fun value rest =>
      ParseResult.mapValue (fun values => if leaf.kept then value :: values else values)
        (runLeaves later rest)

end LineGrammar
