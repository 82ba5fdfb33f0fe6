import LineGrammar.Pipeline.Leaves

/-!
Parsing a pipeline is running its primitives one after another. The tree decides only how the
values are paired: what is consumed, where the parse fails and with which cause, and which values
come out in which order can be read off the leaves.

* `Pipeline.mapValue_leaves_parse`: the parse of a pipeline, its value taken apart, is the run of
  its leaves.
* `runLeaves_eq_ok_iff`, `runLeaves_eq_error_iff`: what a run of leaves comes to, said by the
  turns that the leaves took.
* `Pipeline.parse_is_flat_run` puts them together.
-/

namespace LineGrammar

open ParseResult

/-! ### A parse leaves a suffix of its input -/

namespace ParseResult

universe u v

variable {α : Type u} {β : Type v} {input : Text}

/-- What the outcome leaves, if it is a success, is a suffix of the input. -/
def LeavesSuffix (input : Text) (result : ParseResult α) : Prop :=
  ∀ value residue, result = .ok ⟨value, residue⟩ → residue <:+ input

namespace LeavesSuffix

theorem ok {value : α} {residue : Text} (h : residue <:+ input) :
    LeavesSuffix input (.ok ⟨value, residue⟩) := by
  intro other rest hok
  cases hok
  exact h

theorem error {cause : ParseError} : LeavesSuffix input (.error cause : ParseResult α) := by
  intro value residue hok
  cases hok

theorem mapValue {result : ParseResult α} (h : LeavesSuffix input result) (f : α → β) :
    LeavesSuffix input (mapValue f result) := by
  intro value residue hok
  obtain ⟨a, ha, -⟩ := mapValue_eq_ok_iff.mp hok
  exact h a residue ha

theorem andThen {result : ParseResult α} {next : α → Text → ParseResult β}
    (h : LeavesSuffix input result) (later : ∀ a rest, LeavesSuffix rest (next a rest)) :
    LeavesSuffix input (andThen result next) := by
  intro value residue hok
  obtain ⟨a, rest, ha, hlater⟩ := andThen_eq_ok_iff.mp hok
  exact (later a rest value residue hlater).trans (h a rest ha)

end LeavesSuffix

end ParseResult

namespace Parser

theorem leavesSuffix_character (c : Char) (input : Text) :
    LeavesSuffix input (character c input) := by
  cases input with
  | nil => exact .error
  | cons first rest =>
    rw [character]
    split
    · exact .ok (List.suffix_cons first rest)
    · exact .error

theorem leavesSuffix_literal (t input : Text) : LeavesSuffix input (literal t input) := by
  rw [literal]
  split
  · exact .ok (List.drop_suffix t.length input)
  · exact .error

theorem leavesSuffix_takeWhile1 (name : Text) (accepts : Char → Bool) (input : Text) :
    LeavesSuffix input (takeWhile1 name accepts input) := by
  rw [takeWhile1]
  split
  · exact .error
  · exact .ok (List.dropWhile_suffix accepts)

theorem leavesSuffix_number (input : Text) : LeavesSuffix input (number input) := by
  rw [number]
  refine (leavesSuffix_takeWhile1 _ _ input).andThen fun run rest => ?_
  split
  · exact .ok List.suffix_rfl
  · exact .error

theorem leavesSuffix_pattern (p : Pattern) (input : Text) :
    LeavesSuffix input (pattern p input) := by
  rw [pattern]
  split
  · split
    · exact .error
    · exact .ok (List.drop_suffix _ input)
  · exact .error

theorem leavesSuffix_endOfInput (input : Text) : LeavesSuffix input (endOfInput input) := by
  cases input with
  | nil => exact .ok List.suffix_rfl
  | cons first rest => exact .error

end Parser

namespace Pipeline

theorem leavesSuffix_parse (p : Pipeline) (input : Text) : LeavesSuffix input (p.parse input) := by
  induction p generalizing input with
  | character c => exact (Parser.leavesSuffix_character c input).mapValue _
  | literal t => exact (Parser.leavesSuffix_literal t input).mapValue _
  | takeWhile1 name accepts =>
    exact (Parser.leavesSuffix_takeWhile1 name accepts input).mapValue _
  | number => exact (Parser.leavesSuffix_number input).mapValue _
  | pattern q => exact (Parser.leavesSuffix_pattern q input).mapValue _
  | endOfInput => exact (Parser.leavesSuffix_endOfInput input).mapValue _
  | skip p ih => exact (ih input).mapValue _
  | followedBy p q ihp ihq =>
    exact (ihp input).andThen fun first rest => (ihq rest).mapValue _

theorem residue_suffix {p : Pipeline} {input residue : Text} {value : Tokens}
    (h : p.parse input = .ok ⟨value, residue⟩) : residue <:+ input :=
  p.leavesSuffix_parse input value residue h

/-! ### Primitives -/

/-- Whether the pipeline consumes input by itself and not through pipelines inside. -/
def isPrimitive : Pipeline → Bool
  | skip _ | followedBy _ _ => false
  | character _ | literal _ | takeWhile1 _ _ | number | pattern _ | endOfInput => true

theorem isPrimitive_of_mem_leaves {p : Pipeline} {leaf : Leaf} (h : leaf ∈ p.leaves) :
    leaf.primitive.isPrimitive = true := by
  induction p generalizing leaf with
  | character | literal | takeWhile1 | number | pattern | endOfInput =>
    cases List.mem_singleton.mp h
    rfl
  | skip p ih =>
    obtain ⟨inner, hinner, rfl⟩ := List.mem_map.mp h
    exact (ih hinner : inner.primitive.isPrimitive = true)
  | followedBy p q ihp ihq =>
    rcases List.mem_append.mp h with h | h
    · exact ihp h
    · exact ihq h

end Pipeline

/-! ### The flat run -/

/-- Leaves in two parts: the second part runs on what the first part left. -/
theorem runLeaves_append (first second : List Leaf) (input : Text) :
    runLeaves (first ++ second) input =
      andThen (runLeaves first input) fun values rest =>
        mapValue (values ++ ·) (runLeaves second rest) := by
  induction first generalizing input with
  | nil => exact (mapValue_id _).symm
  | cons leaf later ih =>
    rw [List.cons_append, runLeaves, runLeaves, andThen_assoc]
    congr 1
    funext value rest
    rw [ih, mapValue_andThen, andThen_mapValue]
    congr 1
    funext values rest
    rw [mapValue_mapValue]
    congr 1
    funext more
    split <;> rfl

/-- Leaves whose values are all dropped consume and fail as they did before. -/
theorem runLeaves_dropped (leaves : List Leaf) (input : Text) :
    runLeaves (leaves.map fun leaf => ⟨leaf.primitive, false⟩) input =
      mapValue (fun _ => []) (runLeaves leaves input) := by
  induction leaves generalizing input with
  | nil => rfl
  | cons leaf later ih =>
    rw [List.map_cons, runLeaves, runLeaves, mapValue_andThen]
    congr 1
    funext value rest
    rw [ih, mapValue_mapValue, mapValue_mapValue]
    rfl

theorem runLeaves_singleton (leaf : Leaf) (input : Text) :
    runLeaves [leaf] input =
      mapValue (fun value => if leaf.kept then [value] else []) (leaf.primitive.parse input) := by
  rw [runLeaves]
  cases leaf.primitive.parse input <;> rfl

/-- **A parse is the run of the leaves.** -/
theorem Pipeline.mapValue_leaves_parse (p : Pipeline) (input : Text) :
    mapValue Tokens.leaves (p.parse input) = runLeaves p.leaves input := by
  induction p generalizing input with
  | character | literal | takeWhile1 | number | pattern | endOfInput =>
    -- A primitive is its own only leaf, and its value its own only leaf or nothing.
    show mapValue Tokens.leaves _ = runLeaves [_] input
    rw [runLeaves_singleton, parse]
    apply mapValue_mapValue_congr
    exact fun _ => rfl
  | skip p ih =>
    rw [leaves, runLeaves_dropped, ← ih, parse, mapValue_mapValue, mapValue_mapValue]
    rfl
  | followedBy p q ihp ihq =>
    rw [leaves, runLeaves_append, ← ihp, parse, mapValue_andThen, andThen_mapValue]
    congr 1
    funext first rest
    rw [← ihq, mapValue_mapValue, mapValue_mapValue]
    congr 1
    funext second
    exact first.leaves_merge second

/-! ### Turns -/

/-- What a leaf did when its turn came: the text that it consumed and the value it produced. -/
structure Turn where
  leaf : Leaf
  consumed : Text
  value : Tokens

/-- The leaves take their turns one after another, each on what the one before left. -/
inductive Turns : Text → List Turn → Text → Prop where
  | done {input : Text} : Turns input [] input
  | turn {leaf : Leaf} {consumed rest residue : Text} {value : Tokens} {later : List Turn} :
      leaf.primitive.parse (consumed ++ rest) = .ok ⟨value, rest⟩ → Turns rest later residue →
      Turns (consumed ++ rest) (⟨leaf, consumed, value⟩ :: later) residue

namespace Turns

/-- The values of the leaves that are kept, in the order of their turns. -/
def keptValues (turns : List Turn) : List Tokens :=
  (turns.filter fun turn => turn.leaf.kept).map Turn.value

/-- The input is what the leaves consumed in their turns, and what is left. -/
theorem input_eq {input residue : Text} {turns : List Turn} (h : Turns input turns residue) :
    input = turns.flatMap Turn.consumed ++ residue := by
  induction h with
  | done => rfl
  | turn _ _ ih => rw [List.flatMap_cons, List.append_assoc, ← ih]

theorem keptValues_cons (turn : Turn) (later : List Turn) :
    keptValues (turn :: later) =
      if turn.leaf.kept then turn.value :: keptValues later else keptValues later := by
  rw [keptValues, List.filter_cons]
  split <;> rfl

end Turns

open Turns (keptValues)

/-- A run of leaves succeeds exactly when every leaf has its turn. -/
theorem runLeaves_eq_ok_iff {leaves : List Leaf} {input residue : Text} {values : List Tokens} :
    runLeaves leaves input = .ok ⟨values, residue⟩ ↔
      ∃ turns, turns.map Turn.leaf = leaves ∧ Turns input turns residue ∧
        keptValues turns = values := by
  induction leaves generalizing input values with
  | nil =>
    constructor
    · intro h
      cases h
      exact ⟨[], rfl, .done, rfl⟩
    · rintro ⟨turns, hleaves, run, rfl⟩
      cases List.map_eq_nil_iff.mp hleaves
      cases run
      rfl
  | cons leaf later ih =>
    rw [runLeaves, andThen_eq_ok_iff]
    constructor
    · rintro ⟨value, rest, hvalue, hlater⟩
      obtain ⟨more, hmore, rfl⟩ := mapValue_eq_ok_iff.mp hlater
      obtain ⟨turns, rfl, run, rfl⟩ := ih.mp hmore
      obtain ⟨consumed, rfl⟩ := Pipeline.residue_suffix hvalue
      exact ⟨⟨leaf, consumed, value⟩ :: turns, rfl, .turn hvalue run, Turns.keptValues_cons _ _⟩
    · rintro ⟨turns, hleaves, run, rfl⟩
      cases run with
      | done => cases hleaves
      | @turn _ consumed rest _ value turns parsed run =>
        cases hleaves
        refine ⟨value, rest, parsed, mapValue_eq_ok_iff.mpr ?_⟩
        exact ⟨keptValues turns, ih.mpr ⟨turns, rfl, run, rfl⟩, (Turns.keptValues_cons _ _).symm⟩

/-- A run of leaves fails exactly when some leaf fails on what those before it left. -/
theorem runLeaves_eq_error_iff {leaves : List Leaf} {input : Text} {cause : ParseError} :
    runLeaves leaves input = .error cause ↔
      ∃ turns leaf later rest, leaves = turns.map Turn.leaf ++ leaf :: later ∧
        Turns input turns rest ∧ leaf.primitive.parse rest = .error cause := by
  induction leaves generalizing input with
  | nil =>
    constructor
    · intro h
      cases h
    · rintro ⟨turns, leaf, later, rest, hleaves, -⟩
      cases turns <;> cases hleaves
  | cons first others ih =>
    rw [runLeaves]
    constructor
    · intro h
      cases hfirst : first.primitive.parse input with
      | error other =>
        rw [hfirst] at h
        cases h
        exact ⟨[], first, others, input, rfl, .done, hfirst⟩
      | ok parsed =>
        obtain ⟨value, rest⟩ := parsed
        rw [hfirst, andThen_ok, mapValue_eq_error_iff] at h
        obtain ⟨turns, leaf, later, last, rfl, run, failed⟩ := ih.mp h
        obtain ⟨consumed, rfl⟩ := Pipeline.residue_suffix hfirst
        exact ⟨⟨first, consumed, value⟩ :: turns, leaf, later, last, rfl, .turn hfirst run, failed⟩
    · rintro ⟨turns, leaf, later, last, hleaves, run, failed⟩
      cases run with
      | done =>
        cases hleaves
        rw [failed, andThen_error]
      | turn parsed run =>
        cases hleaves
        rw [parsed, andThen_ok, mapValue_eq_error_iff]
        exact ih.mpr ⟨_, leaf, later, last, rfl, run, failed⟩

namespace Pipeline

variable {p : Pipeline} {input : Text}

/-- In a parse that succeeds every leaf has its turn. -/
theorem exists_turns_of_parse {value : Tokens} {residue : Text}
    (h : p.parse input = .ok ⟨value, residue⟩) :
    ∃ turns, turns.map Turn.leaf = p.leaves ∧ Turns input turns residue ∧
      keptValues turns = value.leaves := by
  apply runLeaves_eq_ok_iff.mp
  rw [← mapValue_leaves_parse, h, mapValue_ok]

/-- In a parse that fails some leaf does, after those in front of it have had their turns. -/
theorem exists_turns_of_parse_error {cause : ParseError} (h : p.parse input = .error cause) :
    ∃ turns leaf later rest, p.leaves = turns.map Turn.leaf ++ leaf :: later ∧
      Turns input turns rest ∧ leaf.primitive.parse rest = .error cause := by
  apply runLeaves_eq_error_iff.mp
  rw [← mapValue_leaves_parse, h, mapValue_error]

end Pipeline

/-- **Parsing refines a flat run.** Let the leaves be the primitives of a pipeline from left to
right. The pipeline fails exactly when one of them fails on what those before it left, and with
the cause of that failure. It succeeds exactly when all of them have their turns: the input is the
texts that they consumed followed by the residue, and the leaves of the value are the values of
the leaves that are kept, in order. -/
theorem Pipeline.parse_is_flat_run (p : Pipeline) (input : Text) :
    (∀ leaf ∈ p.leaves, leaf.primitive.isPrimitive = true) ∧
    (∀ cause, p.parse input = .error cause ↔
      ∃ turns leaf later rest, p.leaves = turns.map Turn.leaf ++ leaf :: later ∧
        Turns input turns rest ∧ leaf.primitive.parse rest = .error cause) ∧
    ∀ values residue,
      (∃ value, p.parse input = .ok ⟨value, residue⟩ ∧ value.leaves = values) ↔
        ∃ turns, turns.map Turn.leaf = p.leaves ∧ Turns input turns residue ∧
          input = turns.flatMap Turn.consumed ++ residue ∧ keptValues turns = values := by
  refine ⟨fun _ => isPrimitive_of_mem_leaves, fun cause => ?_, fun values residue => ?_⟩
  · rw [← runLeaves_eq_error_iff, ← mapValue_leaves_parse, mapValue_eq_error_iff]
  · rw [← mapValue_eq_ok_iff, mapValue_leaves_parse, runLeaves_eq_ok_iff]
    constructor
    · rintro ⟨turns, hleaves, run, hvalues⟩
      exact ⟨turns, hleaves, run, run.input_eq, hvalues⟩
    · rintro ⟨turns, hleaves, run, -, hvalues⟩
      exact ⟨turns, hleaves, run, hvalues⟩

end LineGrammar
