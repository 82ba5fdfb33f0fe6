import LineGrammar.Proofs.Agreement
import LineGrammar.Proofs.ProducedShape

/-!
Three pipelines in a row, nested to the left or to the right. The nesting has no part in what is
consumed, in where the parse fails, or in which values come out. It shows in how the values are
paired, and there it shows exactly when all three pipelines have a value.

* `Tokens.merge_assoc_iff`: three values merge to the same tree from either side exactly when one
  of them is nothing, because a pair is never its own half.
* `Pipeline.eq_nothing_iff_of_parse`: a pipeline produces nothing exactly when it declares so.
* `Pipeline.parse_nested_left`, `Pipeline.parse_nested_right`: either nesting runs the same three
  parses, each on what the one before left.
* `Pipeline.association_changes_nesting_only` puts them together.
-/

namespace LineGrammar

open ParseResult

/-! ### Three values -/

namespace Tokens

variable {a b c : Tokens}

/-- A pair is larger than its first half. -/
theorem first_ne_pair (a b : Tokens) : a ≠ pair a b := by
  intro same
  have sizes := congrArg sizeOf same
  rw [pair.sizeOf_spec] at sizes
  omega

/-- **Merging associates exactly where something is missing.** -/
theorem merge_assoc_iff :
    (a.merge b).merge c = a.merge (b.merge c) ↔ a = nothing ∨ b = nothing ∨ c = nothing := by
  constructor
  · intro same
    by_cases ha : a = nothing
    · exact .inl ha
    by_cases hb : b = nothing
    · exact .inr (.inl hb)
    by_cases hc : c = nothing
    · exact .inr (.inr hc)
    -- With three values the first half of the left tree is a pair, and the equation makes that pair
    -- its own first half.
    rw [merge_of_ne_nothing ha hb, merge_of_ne_nothing hb hc,
      merge_of_ne_nothing (pair_ne_nothing a b) hc,
      merge_of_ne_nothing ha (pair_ne_nothing b c)] at same
    injection same with firsts
    exact absurd firsts.symm (first_ne_pair a b)
  · rintro (rfl | rfl | rfl)
    · rfl
    · rw [merge_nothing, nothing_merge]
    · rw [merge_nothing, merge_nothing]

theorem shape_merge_assoc (a b c : Tokens) :
    ((a.merge b).merge c).shape = (a.merge (b.merge c)).shape := by
  simp only [shape_merge, Shape.combine_assoc]

theorem leaves_merge_assoc (a b c : Tokens) :
    ((a.merge b).merge c).leaves = (a.merge (b.merge c)).leaves := by
  simp only [leaves_merge, List.append_assoc]

theorem shape_eq_noValue_iff : a.shape = .noValue ↔ a = nothing := by
  cases a <;> simp [shape]

end Tokens

/-! ### Three pipelines -/

namespace Pipeline

/-- **A pipeline produces nothing exactly when it declares so.** -/
theorem eq_nothing_iff_of_parse {p : Pipeline} {input residue : Text} {value : Tokens}
    (h : p.parse input = .ok ⟨value, residue⟩) : value = .nothing ↔ p.shape = .noValue := by
  rw [← Tokens.shape_eq_noValue_iff, (merged_of_parse h).shape_eq_ofCount, length_leaves_of_parse h,
    ← p.shape_eq_ofCount]

variable (a b c : Pipeline) (input : Text)

theorem parse_nested_left :
    ((a.followedBy b).followedBy c).parse input =
      andThen (a.parse input) fun x rest => andThen (b.parse rest) fun y rest =>
        mapValue (x.merge y).merge (c.parse rest) := by
  rw [parse, parse, andThen_assoc]
  congr 1
  funext x rest
  rw [andThen_mapValue]

theorem parse_nested_right :
    (a.followedBy (b.followedBy c)).parse input =
      andThen (a.parse input) fun x rest => andThen (b.parse rest) fun y rest =>
        mapValue (fun z => x.merge (y.merge z)) (c.parse rest) := by
  rw [parse]
  congr 1
  funext x rest
  rw [parse, mapValue_andThen]
  congr 1
  funext y rest
  rw [mapValue_mapValue]

/-- **Another association changes the nesting of the values and nothing else.** Three pipelines in
a row declare one shape, whichever two of them are taken together. On every input both nestings
fail with one cause, or both succeed and leave one residue; then their values have one shape and the
same leaves in the same order, and they are the same tree exactly when at least one of the three
pipelines declares that it has no value. -/
theorem association_changes_nesting_only :
    ((a.followedBy b).followedBy c).shape = (a.followedBy (b.followedBy c)).shape ∧
    Agree (fun left right => left.shape = right.shape ∧ left.leaves = right.leaves ∧
        (left = right ↔ a.shape = .noValue ∨ b.shape = .noValue ∨ c.shape = .noValue))
      (((a.followedBy b).followedBy c).parse input)
      ((a.followedBy (b.followedBy c)).parse input) := by
  refine ⟨Shape.combine_assoc _ _ _, ?_⟩
  -- Each of the three parses remembers when its value is nothing.
  have remember (p : Pipeline) (input : Text) :
      Agree (fun x y => x = y ∧ (x = .nothing ↔ p.shape = .noValue)) (p.parse input)
        (p.parse input) :=
    .refl_of fun _ _ h => eq_nothing_iff_of_parse h
  rw [parse_nested_left, parse_nested_right]
  apply (remember a input).andThen
  rintro x _ rest ⟨rfl, hx⟩
  apply (remember b rest).andThen
  rintro y _ rest ⟨rfl, hy⟩
  apply (remember c rest).mapValue
  rintro z _ ⟨rfl, hz⟩
  refine ⟨Tokens.shape_merge_assoc x y z, Tokens.leaves_merge_assoc x y z, ?_⟩
  rw [Tokens.merge_assoc_iff, hx, hy, hz]

/-- Two words and the comma between them are paired from the left or from the right. -/
example :
    ((word.followedBy (character ',')).followedBy word).parse "a,b".toList =
      .ok ⟨.pair (.pair (.text ['a']) (.char ',')) (.text ['b']), []⟩ ∧
    (word.followedBy ((character ',').followedBy word)).parse "a,b".toList =
      .ok ⟨.pair (.text ['a']) (.pair (.char ',') (.text ['b'])), []⟩ := by
  decide +kernel

end Pipeline

end LineGrammar
