import LineGrammar.Proofs.Association
import LineGrammar.Proofs.Sequence

/-!
The algebra of merging, for any values at all: also for trees built by hand that hold `nothing`
inside of their pairs. Shapes combine and leaves are put in a row, in whatever order a list of
values is merged. The order shows in the nesting alone, and there it shows from three values on.

* `Tokens.halves?_merge_iff`: a merged value falls apart into its two parts exactly when both are
  something.
* `Tokens.foldl_merge_kept`, `Tokens.foldr_merge`: values that are nothing have no part in what is
  merged from either side.
* `Tokens.foldl_merge_eq_foldr_iff`: when both sides make the same tree.
* `Tokens.merging_adds_shapes_and_leaves` puts them together.
-/

namespace LineGrammar

namespace Tokens

variable {a b : Tokens} {values : List Tokens}

/-! ### Two values -/

/-- A pair is larger than its second half. -/
theorem second_ne_pair (a b : Tokens) : b ≠ pair a b := by
  intro same
  have sizes := congrArg sizeOf same
  rw [pair.sizeOf_spec] at sizes
  omega

theorem halves?_eq_some_iff {whole : Tokens} : whole.halves? = some (a, b) ↔ whole = pair a b := by
  cases whole <;> simp [halves?]

/-- **The halves of a merged value are its parts exactly when both are something.** Otherwise the
merged value is one of the parts, and no tree is its own half. -/
theorem halves?_merge_iff : (a.merge b).halves? = some (a, b) ↔ a ≠ nothing ∧ b ≠ nothing := by
  rw [halves?_eq_some_iff]
  constructor
  · intro whole
    constructor
    · rintro rfl
      exact second_ne_pair nothing b whole
    · rintro rfl
      rw [merge_nothing] at whole
      exact first_ne_pair a nothing whole
  · rintro ⟨ha, hb⟩
    exact merge_of_ne_nothing ha hb

/-! ### Values merged from one side -/

theorem shape_foldl_merge (start : Tokens) (values : List Tokens) :
    (values.foldl merge start).shape = (values.map shape).foldl Shape.combine start.shape := by
  rw [List.foldl_map]
  exact (List.foldl_hom shape fun a b => (shape_merge a b).symm).symm

theorem shape_foldr_merge (values : List Tokens) :
    (values.foldr merge nothing).shape = (values.map shape).foldr Shape.combine .noValue := by
  rw [List.foldr_map]
  exact (List.foldr_hom shape fun a b => (shape_merge a b).symm).symm

theorem leaves_foldl_merge (start : Tokens) (values : List Tokens) :
    (values.foldl merge start).leaves = start.leaves ++ values.flatMap leaves := by
  induction values generalizing start with
  | nil => exact (List.append_nil _).symm
  | cons value later ih =>
    rw [List.foldl_cons, ih, leaves_merge, List.append_assoc, List.flatMap_cons]

theorem leaves_foldr_merge (values : List Tokens) :
    (values.foldr merge nothing).leaves = values.flatMap leaves := by
  induction values with
  | nil => rfl
  | cons value later ih => rw [List.foldr_cons, leaves_merge, ih, List.flatMap_cons]

/-- From the left, values that are nothing have no part in the result. -/
theorem foldl_merge_kept (start : Tokens) (values : List Tokens) :
    values.foldl merge start = (kept values).foldl merge start := by
  induction values generalizing start with
  | nil => rfl
  | cons value later ih =>
    rw [List.foldl_cons, ih, kept_cons]
    by_cases h : value = nothing
    · rw [if_pos h, h, merge_nothing]
    · rw [if_neg h, List.foldl_cons]

/-- From the right, values that are something are nested as they stand. -/
theorem foldr_merge (values : List Tokens) : values.foldr merge nothing = nested (kept values) := by
  induction values with
  | nil => rfl
  | cons value later ih => rw [List.foldr_cons, ih, merge_nested]

/-! ### Where the side shows -/

/-- What is merged from the left becomes a part of the first half, as it is or deeper. -/
theorem exists_foldl_merge_eq_pair (start value : Tokens) (later : List Tokens)
    (something : start ≠ nothing) (all : ∀ other ∈ value :: later, other ≠ nothing) :
    ∃ first second, (value :: later).foldl merge start = pair first second ∧
      sizeOf start ≤ sizeOf first := by
  induction later generalizing start value with
  | nil => exact ⟨start, value, merge_of_ne_nothing something (all value List.mem_cons_self),
      Nat.le_refl _⟩
  | cons next later ih =>
    have paired := merge_of_ne_nothing something (all value List.mem_cons_self)
    obtain ⟨first, second, merged, larger⟩ := ih (pair start value) next
      (pair_ne_nothing start value) fun other mem => all other (List.mem_cons_of_mem value mem)
    refine ⟨first, second, ?_, ?_⟩
    · rw [List.foldl_cons, paired, merged]
    · rw [pair.sizeOf_spec] at larger
      omega

/-- **Both sides make the same tree exactly when at most two values are something.** From three on
the first half is a pair on the left, and on the right it is the first value alone. -/
theorem foldl_merge_eq_foldr_iff :
    values.foldl merge nothing = values.foldr merge nothing ↔ (kept values).length ≤ 2 := by
  have all : ∀ value ∈ kept values, value ≠ nothing := fun _ => ne_nothing_of_mem_kept
  rw [foldl_merge_kept, foldr_merge]
  match kept values, all with
  | [], _ => exact iff_of_true rfl (Nat.zero_le 2)
  | [value], _ => exact iff_of_true rfl (Nat.le_succ 1)
  | [first, second], all =>
    exact iff_of_true (merge_of_ne_nothing (all _ (by simp)) (all _ (by simp))) (Nat.le_refl 2)
  | first :: second :: third :: later, all =>
    refine iff_of_false ?_ (by simp)
    have paired : first.merge second = pair first second :=
      merge_of_ne_nothing (all _ (by simp)) (all _ (by simp))
    obtain ⟨left, right, merged, larger⟩ :=
      exists_foldl_merge_eq_pair (pair first second) third later (pair_ne_nothing first second)
        fun other mem => all other (List.mem_cons_of_mem _ (List.mem_cons_of_mem _ mem))
    rw [List.foldl_cons, List.foldl_cons, nothing_merge, paired, merged, nested]
    intro same
    injection same with halves
    rw [halves, pair.sizeOf_spec] at larger
    omega

/-- **Merging adds up shapes and leaves.** Two merged values have the shape that theirs combine to
and the leaves of both, the first one's in front; they can be taken apart again exactly when both
are something. The values of a list, merged from the left or from the right, have one shape and one
row of leaves, those of the values in their order. They make the same tree exactly when at most two
of the values are something. In either direction the merging may start with `nothing` or with the
first value that it meets. -/
theorem merging_adds_shapes_and_leaves (a b : Tokens) (values : List Tokens) :
    (a.merge b).shape = a.shape.combine b.shape ∧
    (a.merge b).leaves = a.leaves ++ b.leaves ∧
    ((a.merge b).halves? = some (a, b) ↔ a ≠ nothing ∧ b ≠ nothing) ∧
    (values.foldl merge nothing).shape = (values.foldr merge nothing).shape ∧
    (values.foldl merge nothing).leaves = values.flatMap leaves ∧
    (values.foldr merge nothing).leaves = values.flatMap leaves ∧
    (values.foldl merge nothing = values.foldr merge nothing ↔
      values.countP (fun value => value ≠ nothing) ≤ 2) ∧
    (a :: values).foldl merge nothing = values.foldl merge a ∧
    (values ++ [a]).foldr merge nothing = values.foldr merge a := by
  refine ⟨shape_merge a b, leaves_merge a b, halves?_merge_iff, ?_,
    leaves_foldl_merge nothing values, leaves_foldr_merge values, ?_, rfl, ?_⟩
  · rw [shape_foldl_merge, shape_foldr_merge, Shape.foldl_combine]
    exact Shape.noValue_combine _
  · rw [foldl_merge_eq_foldr_iff, List.countP_eq_length_filter]
    rfl
  · rw [List.foldr_append, List.foldr_cons, List.foldr_nil, merge_nothing]

/-- A pair built by hand with `nothing` in it is something: it is kept as it is. -/
example :
    (pair nothing nothing).merge nothing = pair nothing nothing ∧
    ((pair nothing nothing).merge (char 'x')).halves? = some (pair nothing nothing, char 'x') := by
  decide

end Tokens

end LineGrammar
