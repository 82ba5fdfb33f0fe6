import LineGrammar.Pipeline

/-!
Pipelines in a row. A sequence is built by nesting to the right, so that its value comes out of
merging from the last item to the first. Seen from outside it runs its items in order: the first
item that fails is the failure of the whole, and otherwise the values that are something are
nested to the right, each of them as the item made it.

* `Pipeline.InRow`, `Pipeline.FailsInRow`: items that run one after another, to the end or up to
  the first failure.
* `Tokens.merge_nested`: merging from the right nests what is something.
* `Pipeline.parse_chain_eq_ok_iff`, `Pipeline.parse_chain_eq_error_iff`: the parse of a row.
* `Pipeline.chain_append`: a row at the end of a row is the longer row.
* `Pipeline.sequence_runs_in_row` puts them together.
-/

namespace LineGrammar

open ParseResult

/-! ### Values in a row -/

namespace Tokens

/-- Values nested to the right; one value stands for itself. -/
def nested : List Tokens → Tokens
  | [] => nothing
  | [value] => value
  | first :: second :: later => pair first (nested (second :: later))

/-- The values that are something, in their order. -/
def kept (values : List Tokens) : List Tokens := values.filter fun value => value ≠ nothing

theorem kept_cons (value : Tokens) (values : List Tokens) :
    kept (value :: values) = if value = nothing then kept values else value :: kept values := by
  by_cases h : value = nothing <;> simp [kept, h]

theorem ne_nothing_of_mem_kept {value : Tokens} {values : List Tokens} (h : value ∈ kept values) :
    value ≠ nothing := by
  simpa using (List.mem_filter.mp h).2

/-- Values nest to something as soon as there are any and all of them are something. -/
theorem nested_ne_nothing {values : List Tokens} (some : values ≠ [])
    (all : ∀ value ∈ values, value ≠ nothing) : nested values ≠ nothing := by
  match values with
  | [] => exact absurd rfl some
  | [value] => exact all value List.mem_cons_self
  | first :: second :: later =>
    intro h
    cases h

/-- **Merging from the right nests what is something.** -/
theorem merge_nested (value : Tokens) (values : List Tokens) :
    value.merge (nested (kept values)) = nested (kept (value :: values)) := by
  rw [kept_cons]
  by_cases h : value = nothing
  · rw [if_pos h, h, nothing_merge]
  · rw [if_neg h]
    cases hkept : kept values with
    | nil => exact merge_nothing value
    | cons first later =>
      have all : ∀ other ∈ first :: later, other ≠ nothing := by
        intro other hother
        exact ne_nothing_of_mem_kept (hkept ▸ hother)
      have something : nested (first :: later) ≠ nothing :=
        nested_ne_nothing (List.cons_ne_nil first later) all
      exact merge_of_ne_nothing h something

theorem nested_kept_singleton (value : Tokens) : nested (kept [value]) = value := by
  rw [← merge_nested]
  exact merge_nothing value

end Tokens

/-- A row of shapes may be combined from either end. -/
theorem Shape.foldl_combine (first : Shape) (shapes : List Shape) :
    shapes.foldl combine first = first.combine (shapes.foldr combine noValue) := by
  induction shapes generalizing first with
  | nil => exact (combine_noValue first).symm
  | cons second later ih => rw [List.foldl_cons, List.foldr_cons, ih, combine_assoc]

/-! ### Items in a row -/

namespace Pipeline

/-- The items succeed one after another, each on what the one before left. -/
inductive InRow : List Pipeline → Text → List Tokens → Text → Prop where
  | done {input : Text} : InRow [] input [] input
  | item {p : Pipeline} {later : List Pipeline} {input rest residue : Text} {value : Tokens}
      {values : List Tokens} :
      p.parse input = .ok ⟨value, rest⟩ → InRow later rest values residue →
      InRow (p :: later) input (value :: values) residue

/-- Some item fails on what the items in front of it left, and these succeed. -/
def FailsInRow (items : List Pipeline) (input : Text) (cause : ParseError) : Prop :=
  ∃ before item after values rest, items = before ++ item :: after ∧
    InRow before input values rest ∧ item.parse rest = .error cause

variable {p : Pipeline} {later : List Pipeline} {input residue : Text} {cause : ParseError}

theorem inRow_singleton_iff {values : List Tokens} :
    InRow [p] input values residue ↔
      ∃ value, p.parse input = .ok ⟨value, residue⟩ ∧ values = [value] := by
  constructor
  · intro h
    cases h with
    | @item _ _ _ _ _ value _ parsed rest =>
      cases rest
      exact ⟨value, parsed, rfl⟩
  · rintro ⟨value, parsed, rfl⟩
    exact .item parsed .done

/-- The first item fails, or it succeeds and one of the others fails. -/
theorem failsInRow_cons_iff :
    FailsInRow (p :: later) input cause ↔
      p.parse input = .error cause ∨
        ∃ value rest, p.parse input = .ok ⟨value, rest⟩ ∧ FailsInRow later rest cause := by
  constructor
  · rintro ⟨before, item, after, values, rest, hitems, run, failed⟩
    cases run with
    | done =>
      cases hitems
      exact .inl failed
    | item parsed run =>
      cases hitems
      exact .inr ⟨_, _, parsed, _, item, after, _, rest, rfl, run, failed⟩
  · rintro (failed | ⟨value, next, parsed, before, item, after, values, rest, rfl, run, failed⟩)
    · exact ⟨[], p, later, [], input, rfl, .done, failed⟩
    · exact ⟨p :: before, item, after, value :: values, rest, rfl, .item parsed run, failed⟩

theorem not_failsInRow_nil : ¬FailsInRow [] input cause := by
  rintro ⟨before, item, after, -, -, hitems, -⟩
  exact List.append_ne_nil_of_right_ne_nil before (List.cons_ne_nil item after) hitems.symm

/-! ### The parse of a row -/

/-- **A row succeeds when its items do**, with what their values nest to. -/
theorem parse_chain_eq_ok_iff {value : Tokens} :
    (chain p later).parse input = .ok ⟨value, residue⟩ ↔
      ∃ values, InRow (p :: later) input values residue ∧ value = .nested (Tokens.kept values) := by
  induction later generalizing p input value with
  | nil =>
    rw [chain]
    constructor
    · intro h
      exact ⟨[value], .item h .done, (Tokens.nested_kept_singleton value).symm⟩
    · rintro ⟨values, run, rfl⟩
      obtain ⟨value, parsed, rfl⟩ := inRow_singleton_iff.mp run
      rw [parsed, Tokens.nested_kept_singleton]
  | cons second later ih =>
    rw [chain, parse, andThen_eq_ok_iff]
    constructor
    · rintro ⟨first, rest, parsed, hlater⟩
      obtain ⟨other, hother, rfl⟩ := mapValue_eq_ok_iff.mp hlater
      obtain ⟨values, run, rfl⟩ := ih.mp hother
      exact ⟨first :: values, .item parsed run, Tokens.merge_nested first values⟩
    · rintro ⟨values, run, rfl⟩
      cases run with
      | @item _ _ _ rest _ first values parsed run =>
        refine ⟨first, rest, parsed, mapValue_eq_ok_iff.mpr ?_⟩
        exact ⟨_, ih.mpr ⟨values, run, rfl⟩, Tokens.merge_nested first values⟩

/-- **A row fails when an item does**, with the cause of that item. -/
theorem parse_chain_eq_error_iff :
    (chain p later).parse input = .error cause ↔ FailsInRow (p :: later) input cause := by
  induction later generalizing p input with
  | nil =>
    rw [chain, failsInRow_cons_iff]
    constructor
    · exact .inl
    · rintro (failed | ⟨value, rest, -, none⟩)
      · exact failed
      · exact absurd none not_failsInRow_nil
  | cons second later ih =>
    rw [chain, parse, andThen_eq_error_iff, failsInRow_cons_iff]
    simp only [mapValue_eq_error_iff, ih]

theorem shape_chain (p : Pipeline) (later : List Pipeline) :
    (chain p later).shape = ((p :: later).map shape).foldr Shape.combine .noValue := by
  induction later generalizing p with
  | nil => exact (Shape.combine_noValue p.shape).symm
  | cons second later ih =>
    rw [chain, shape, ih]
    rfl

/-- **A row at the end of a row is the longer row.** -/
theorem chain_append (p second : Pipeline) (before later : List Pipeline) :
    chain p (before ++ [chain second later]) = chain p (before ++ second :: later) := by
  induction before generalizing p with
  | nil => rfl
  | cons first before ih => rw [List.cons_append, chain, ih, List.cons_append, chain]

/-! ### Sequences -/

/-- Two items or more make a row. -/
theorem exists_sequence_eq_ok {items : List Pipeline} (h : 2 ≤ items.length) :
    ∃ first later, items = first :: later ∧ sequence items = .ok (chain first later) := by
  match items with
  | [] => simp at h
  | [item] => simp at h
  | first :: second :: later => exact ⟨first, second :: later, rfl, rfl⟩

/-- **A sequence runs its items in a row.** Fewer than two items are refused with their number. Of
two or more, the first item that fails on what the items in front of it left gives the error; if
none does, the residue is that of the last one, and the value is made of the values that are
something: none, the only one, or all of them nested to the right in their order, each as it is.
The shape is that of the items' shapes combined from either end. A sequence as the last item of a
sequence is the same pipeline as its items in its place. -/
theorem sequence_runs_in_row (items : List Pipeline) :
    (items.length < 2 → sequence items = .error (.tooFewParsers items.length)) ∧
    (2 ≤ items.length → ∃ p, sequence items = .ok p ∧
      (∀ input cause, p.parse input = .error cause ↔ FailsInRow items input cause) ∧
      (∀ input value residue, p.parse input = .ok ⟨value, residue⟩ ↔
        ∃ values, InRow items input values residue ∧ value = .nested (Tokens.kept values)) ∧
      p.shape = (items.map shape).foldl Shape.combine .noValue ∧
      p.shape = (items.map shape).foldr Shape.combine .noValue) ∧
    ∀ others : List Pipeline, items ≠ [] → 2 ≤ others.length →
      ∃ last whole, sequence others = .ok last ∧ sequence (items ++ [last]) = .ok whole ∧
        sequence (items ++ others) = .ok whole := by
  refine ⟨?_, ?_, ?_⟩
  · intro few
    match items with
    | [] => rfl
    | [item] => rfl
    | first :: second :: later =>
      simp only [List.length_cons] at few
      omega
  · intro enough
    obtain ⟨first, later, rfl, hsequence⟩ := exists_sequence_eq_ok enough
    have shape := shape_chain first later
    refine ⟨_, hsequence, fun _ _ => parse_chain_eq_error_iff, fun _ _ _ => parse_chain_eq_ok_iff,
      ?_, shape⟩
    rw [shape, Shape.foldl_combine, Shape.noValue_combine]
  · intro others nonempty enough
    obtain ⟨first, before, rfl⟩ := List.exists_cons_of_ne_nil nonempty
    obtain ⟨second, later, rfl, hothers⟩ := exists_sequence_eq_ok enough
    have long (more : List Pipeline) (h : more ≠ []) :
        sequence (first :: before ++ more) = .ok (chain first (before ++ more)) := by
      obtain ⟨other, hmore⟩ := List.exists_cons_of_ne_nil
        (List.append_ne_nil_of_right_ne_nil before h)
      obtain ⟨rest, hmore⟩ := hmore
      rw [List.cons_append, hmore]
      rfl
    refine ⟨_, _, hothers, long _ (List.cons_ne_nil _ _), ?_⟩
    rw [long _ (List.cons_ne_nil _ _), chain_append]

/-- The only value that is something is a pair and stays one, between two items that are skipped;
and two more items may follow, as a sequence of their own or not. -/
theorem sequence_runs_in_row_around_pair :
    sequence [word] = .error (.tooFewParsers 1) ∧
    (∃ p, sequence [skip word, followedBy number (character ','), skip whitespace] = .ok p ∧
      p.parse "ab12, x".toList = .ok ⟨.pair (.number 12) (.char ','), "x".toList⟩ ∧
      p.shape = .pair) ∧
    ∃ last whole, sequence [word, skip (character ';')] = .ok last ∧
      sequence ([skip word, followedBy number (character ','), skip whitespace] ++ [last]) =
        .ok whole ∧
      sequence ([skip word, followedBy number (character ','), skip whitespace] ++
        [word, skip (character ';')]) = .ok whole := by
  obtain ⟨few, -, -⟩ := sequence_runs_in_row [word]
  obtain ⟨-, enough, append⟩ :=
    sequence_runs_in_row [skip word, followedBy number (character ','), skip whitespace]
  obtain ⟨p, hp, -, succeeds, -, hshape⟩ := enough (by decide)
  have first : (skip word).parse "ab12, x".toList = .ok ⟨.nothing, "12, x".toList⟩ := by
    decide +kernel
  have second : (followedBy number (character ',')).parse "12, x".toList =
      .ok ⟨.pair (.number 12) (.char ','), " x".toList⟩ := by
    decide +kernel
  have third : (skip whitespace).parse " x".toList = .ok ⟨.nothing, "x".toList⟩ := by
    decide +kernel
  have parsed : p.parse "ab12, x".toList = .ok ⟨.pair (.number 12) (.char ','), "x".toList⟩ :=
    (succeeds _ _ _).mpr ⟨_, .item first (.item second (.item third .done)), by decide⟩
  exact ⟨few (by decide), ⟨p, hp, parsed, hshape⟩, append _ (List.cons_ne_nil _ _) (by decide)⟩

end Pipeline

end LineGrammar
