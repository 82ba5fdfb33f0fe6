import LineGrammar.Proofs.FlatRun

/-!
The shape of what a pipeline produces. A pipeline computes the shape that it declares from its own
tree; a value has the shape that merging gave it. Both count the same thing, the values that are
kept: none makes no value, one makes a single value, and more make a pair. What ties a value to
the count of its leaves is that merging never puts `nothing` inside a pair.

* `Tokens.Merged`: the values that merging makes, kept by `Tokens.Merged.merge`.
* `Pipeline.shape_eq_ofCount`, `Tokens.Merged.shape_eq_ofCount`: the declared shape and the shape
  of a value, each as a count.
* `Pipeline.length_leaves_of_parse`: a success produces as many values as are kept.
* `Pipeline.produced_shape_is_declared` puts them together.
-/

namespace LineGrammar

/-! ### Shapes as counts -/

namespace Shape

/-- The shape of so many values in a row. -/
def ofCount : Nat → Shape
  | 0 => noValue
  | 1 => single
  | _ + 2 => pair

theorem ofCount_add (m n : Nat) : ofCount (m + n) = (ofCount m).combine (ofCount n) := by
  match m, n with
  | 0, n => rw [Nat.zero_add, ofCount, noValue_combine]
  | m, 0 => rw [Nat.add_zero, ofCount, combine_noValue]
  | 1, 1 => rfl
  | 1, n + 2 =>
    rw [Nat.add_comm]
    rfl
  | m + 2, n + 1 =>
    rw [show m + 2 + (n + 1) = m + n + 1 + 2 by omega]
    cases n <;> rfl

end Shape

/-! ### Merged values -/

namespace Tokens

/-- Whether `nothing` is the tree or any part of it. -/
def hasNothing : Tokens → Bool
  | nothing => true
  | char _ | text _ | number _ => false
  | pair a b => a.hasNothing || b.hasNothing

/-- A value as merging makes it: it is `nothing`, or `nothing` is no part of it. -/
def Merged (a : Tokens) : Prop := a = nothing ∨ a.hasNothing = false

/-- Where nothing is missing there is a leaf. -/
theorem leaves_length_pos {a : Tokens} (h : a.hasNothing = false) : 0 < a.leaves.length := by
  induction a with
  | nothing => cases h
  | char | text | number => exact Nat.one_pos
  | pair a b iha _ =>
    rw [leaves, List.length_append]
    exact Nat.add_pos_left (iha (Bool.or_eq_false_iff.mp h).1) _

namespace Merged

theorem merge {a b : Tokens} (ha : a.Merged) (hb : b.Merged) : (a.merge b).Merged := by
  rcases ha with rfl | ha
  · exact hb
  · rcases hb with rfl | hb
    · rw [merge_nothing]
      exact .inr ha
    · have something {c : Tokens} (h : c.hasNothing = false) : c ≠ nothing := by
        rintro rfl
        cases h
      rw [merge_of_ne_nothing (something ha) (something hb)]
      exact .inr (Bool.or_eq_false_iff.mpr ⟨ha, hb⟩)

/-- The shape of a merged value says how many leaves it has. -/
theorem shape_eq_ofCount {a : Tokens} (h : a.Merged) : a.shape = .ofCount a.leaves.length := by
  rcases h with rfl | h
  · rfl
  · cases a with
    | nothing => cases h
    | char | text | number => rfl
    | pair a b =>
      obtain ⟨ha, hb⟩ := Bool.or_eq_false_iff.mp h
      obtain ⟨m, hm⟩ := Nat.exists_eq_add_of_lt (leaves_length_pos ha)
      obtain ⟨n, hn⟩ := Nat.exists_eq_add_of_lt (leaves_length_pos hb)
      rw [leaves, List.length_append, hm, hn, show 0 + m + 1 + (0 + n + 1) = m + n + 2 by omega]
      rfl

end Merged

end Tokens

/-! ### What a pipeline declares and what it produces -/

namespace Pipeline

open ParseResult

variable {p : Pipeline} {input residue : Text} {value : Tokens}

/-- The declared shape counts the values that are kept. -/
theorem shape_eq_ofCount (p : Pipeline) : p.shape = .ofCount p.keptCount := by
  induction p with
  | character | literal | takeWhile1 | number | pattern | endOfInput => rfl
  | skip p _ =>
    rw [keptCount_skip]
    rfl
  | followedBy p q ihp ihq => rw [shape, ihp, ihq, keptCount_followedBy, Shape.ofCount_add]

theorem merged_of_parse (h : p.parse input = .ok ⟨value, residue⟩) : value.Merged := by
  induction p generalizing input residue value with
  | character | literal | takeWhile1 | number | pattern =>
    obtain ⟨_, -, rfl⟩ := mapValue_eq_ok_iff.mp h
    exact .inr rfl
  | endOfInput | skip =>
    obtain ⟨_, -, rfl⟩ := mapValue_eq_ok_iff.mp h
    exact .inl rfl
  | followedBy p q ihp ihq =>
    obtain ⟨first, rest, hfirst, hlater⟩ := andThen_eq_ok_iff.mp h
    obtain ⟨second, hsecond, rfl⟩ := mapValue_eq_ok_iff.mp hlater
    exact (ihp hfirst).merge (ihq hsecond)

/-- A success has a leaf for every value that is kept: each leaf of the pipeline has its turn. -/
theorem length_leaves_of_parse (h : p.parse input = .ok ⟨value, residue⟩) :
    value.leaves.length = p.keptCount := by
  obtain ⟨turns, hleaves, -, hvalues⟩ := exists_turns_of_parse h
  rw [← hvalues, Turns.keptValues, List.length_map, keptCount, ← hleaves, List.countP_map,
    List.countP_eq_length_filter]
  rfl

/-- **The declared shape is the shape produced.** The declared shape is that of the number of
values kept: no value, a single one, or a pair where there are two or more. A value that comes out
of a parse, of a prefix or of the whole input, has the declared shape and has exactly as many
leaves; and `nothing` is all of it or no part of it. -/
theorem produced_shape_is_declared (p : Pipeline) (input : Text) (value : Tokens)
    (produced : (∃ residue, p.parse input = .ok ⟨value, residue⟩) ∨
      p.parseComplete input = .ok value) :
    value.shape = p.shape ∧ p.shape = .ofCount p.keptCount ∧
      value.leaves.length = p.keptCount ∧ (value = .nothing ∨ value.hasNothing = false) := by
  obtain ⟨residue, h⟩ : ∃ residue, p.parse input = .ok ⟨value, residue⟩ := by
    rcases produced with h | h
    · exact h
    · exact ⟨[], complete_eq_ok_iff.mp h⟩
  have merged := merged_of_parse h
  have count := length_leaves_of_parse h
  refine ⟨?_, p.shape_eq_ofCount, count, merged⟩
  rw [merged.shape_eq_ofCount, count, p.shape_eq_ofCount]

/-- Five primitives, of which two are skipped together and one has no value. -/
theorem produced_shape_is_declared_around_skipped_pair :
    (followedBy (skip (followedBy word number))
      (followedBy (character ',') (followedBy number endOfInput))).shape = .pair := by
  have produced : (followedBy (skip (followedBy word number))
      (followedBy (character ',') (followedBy number endOfInput))).parseComplete "ab12,7".toList =
        .ok (.pair (.char ',') (.number 7)) := by
    decide +kernel
  exact (produced_shape_is_declared _ _ _ (.inr produced)).1.symm

end Pipeline

end LineGrammar
