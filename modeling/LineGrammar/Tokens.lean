import LineGrammar.Shape
import LineGrammar.Text

/-!
Values of pipelines that are built while the program runs: a tree of characters, texts and
numbers. Two values in a row are merged by the shape rule, so a tree that was only ever merged
holds `nothing` only when it is `nothing`; a pair built by hand may hold it anywhere.
-/

namespace LineGrammar

/-- The value that a runtime pipeline produces. -/
inductive Tokens where
  | nothing
  | char (c : Char)
  | text (t : Text)
  | number (n : UInt64)
  | pair (first second : Tokens)
  deriving DecidableEq, Repr

namespace Tokens

/-- The shape of a value. -/
def shape : Tokens → Shape
  | nothing => .noValue
  | char _ | text _ | number _ => .single
  | pair _ _ => .pair

/-- Two values in a row: one that carries nothing is dropped, the left one first. -/
def merge (a b : Tokens) : Tokens :=
  match a.shape.carriesValue, b.shape.carriesValue with
  | false, _ => b
  | true, false => a
  | true, true => .pair a b

/-- The two halves of a pair. -/
def halves? : Tokens → Option (Tokens × Tokens)
  | pair a b => some (a, b)
  | _ => none

/-- The text of a text value. -/
def text? : Tokens → Option Text
  | text t => some t
  | _ => none

/-- The values at the leaves from left to right; `nothing` is no value. -/
def leaves : Tokens → List Tokens
  | nothing => []
  | char c => [.char c]
  | text t => [.text t]
  | number n => [.number n]
  | pair a b => a.leaves ++ b.leaves

@[simp] theorem nothing_merge (a : Tokens) : nothing.merge a = a := rfl

@[simp] theorem merge_nothing (a : Tokens) : a.merge nothing = a := by cases a <;> rfl

/-- Only `nothing` carries nothing. -/
theorem carriesValue_shape_iff {a : Tokens} : a.shape.carriesValue = true ↔ a ≠ nothing := by
  cases a <;> simp [shape, Shape.carriesValue]

theorem merge_eq_pair {a b : Tokens} (ha : a.shape.carriesValue = true)
    (hb : b.shape.carriesValue = true) : a.merge b = pair a b := by
  simp only [merge, ha, hb]

theorem pair_ne_nothing (a b : Tokens) : pair a b ≠ nothing := nofun

theorem merge_of_ne_nothing {a b : Tokens} (ha : a ≠ nothing) (hb : b ≠ nothing) :
    a.merge b = pair a b :=
  merge_eq_pair (carriesValue_shape_iff.mpr ha) (carriesValue_shape_iff.mpr hb)

/-- A merged value has the shape that its parts combine to. -/
theorem shape_merge (a b : Tokens) : (a.merge b).shape = a.shape.combine b.shape := by
  cases a with
  | nothing => simp [shape]
  | char | text | number | pair =>
    cases b with
    | nothing => simp [shape]
    | char | text | number | pair => rfl

/-- Merging keeps the leaves of both values in their order, nothing among them. -/
theorem leaves_merge (a b : Tokens) : (a.merge b).leaves = a.leaves ++ b.leaves := by
  cases a with
  | nothing => rfl
  | char | text | number | pair =>
    cases b with
    | nothing => rw [merge_nothing, leaves, List.append_nil]
    | char | text | number | pair => rfl

end Tokens

end LineGrammar
