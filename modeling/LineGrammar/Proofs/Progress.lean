import LineGrammar.Proofs.CharRuns
import LineGrammar.Proofs.FlatRun
import LineGrammar.Proofs.SearchStart
import Mathlib.Algebra.Ring.Nat

/-!
How much a parse consumes. A literal consumes its own length, and every other primitive but the end
of the input at least one character: a run and a match of a pattern must not be empty. What the
primitives consume adds up, whether or not their values are skipped, so each pipeline has a least
length, and a pipeline that has one always makes progress.

* `ParseResult.Consumes`: the least number of characters that a success consumes, and whether it
  always consumes just as many; the ways in which outcomes are used add such numbers up.
* `Pipeline.consumes_parse`: every pipeline consumes the least length of its tree.
* `Pipeline.leastLength_eq_sum`, `Pipeline.hasFixedLength_iff`: both can be read off the leaves.
* `Pipeline.parse_consumes_leaf_lengths` puts them together.
-/

namespace LineGrammar

open ParseResult

/-! ### What an outcome consumes -/

namespace ParseResult

universe u v

variable {α : Type u} {β : Type v} {least more : Nat} {fixed also : Bool} {input : Text}

/-- A success leaves so many characters fewer than there were, at least, and just so many fewer if
their number is fixed. -/
def Consumes (least : Nat) (fixed : Bool) (input : Text) (result : ParseResult α) : Prop :=
  ∀ value residue, result = .ok ⟨value, residue⟩ →
    residue.length + least ≤ input.length ∧
      (fixed = true → residue.length + least = input.length)

namespace Consumes

theorem mapValue {result : ParseResult α} (h : Consumes least fixed input result) (f : α → β) :
    Consumes least fixed input (mapValue f result) := by
  intro value residue hok
  obtain ⟨a, ha, -⟩ := mapValue_eq_ok_iff.mp hok
  exact h a residue ha

/-- What two parses consume, one after the other, adds up. -/
theorem andThen {result : ParseResult α} {next : α → Text → ParseResult β}
    (h : Consumes least fixed input result)
    (later : ∀ a rest, Consumes more also rest (next a rest)) :
    Consumes (least + more) (fixed && also) input (andThen result next) := by
  intro value residue hok
  obtain ⟨a, rest, ha, hlater⟩ := andThen_eq_ok_iff.mp hok
  obtain ⟨first, firstFixed⟩ := h a rest ha
  obtain ⟨second, secondFixed⟩ := later a rest value residue hlater
  refine ⟨by omega, fun both => ?_⟩
  obtain ⟨hfixed, halso⟩ := Bool.and_eq_true_iff.mp both
  have exactFirst := firstFixed hfixed
  have exactSecond := secondFixed halso
  omega

end Consumes

end ParseResult

/-! ### Primitives -/

namespace Parser

theorem consumes_character (c : Char) (input : Text) :
    Consumes 1 true input (character c input) := by
  intro value residue h
  obtain ⟨rfl, rfl⟩ := character_eq_ok_iff.mp h
  exact ⟨Nat.le_refl _, fun _ => rfl⟩

theorem consumes_literal (t input : Text) : Consumes t.length true input (literal t input) := by
  intro (value : Text) residue h
  obtain ⟨rfl, rfl⟩ := literal_eq_ok_iff.mp h
  have total : residue.length + value.length = (value ++ residue).length := by
    rw [List.length_append, Nat.add_comm]
  exact ⟨Nat.le_of_eq total, fun _ => total⟩

theorem consumes_takeWhile1 (name : Text) (accepts : Char → Bool) (input : Text) :
    Consumes 1 false input (takeWhile1 name accepts input) := by
  intro (run : Text) residue h
  obtain ⟨isRun, -, rfl⟩ := takeWhile1_eq_ok_iff.mp h
  have positive : 0 < run.length := List.length_pos_iff.mpr isRun.ne_nil
  rw [List.length_append]
  exact ⟨by omega, nofun⟩

/-- The digits are consumed before they are read as a number. -/
theorem consumes_number (input : Text) : Consumes 1 false input (number input) := by
  show Consumes (1 + 0) (false && true) input (number input)
  rw [number]
  refine (consumes_takeWhile1 _ _ input).andThen fun run rest => ?_
  intro value residue h
  split at h
  · cases h
    exact ⟨Nat.le_refl _, fun _ => rfl⟩
  · cases h

/-- A match is not empty and lies within the input. -/
theorem consumes_pattern (p : Pattern) (input : Text) :
    Consumes 1 false input (pattern p input) := by
  intro value residue h
  obtain ⟨span, -, nonempty, within, -, rfl⟩ := exists_span_of_pattern h
  rw [List.length_drop]
  exact ⟨by omega, nofun⟩

theorem consumes_endOfInput (input : Text) : Consumes 0 true input (endOfInput input) := by
  intro value residue h
  obtain ⟨rfl, rfl⟩ := endOfInput_eq_ok_iff.mp h
  exact ⟨Nat.le_refl 0, fun _ => rfl⟩

end Parser

/-! ### Pipelines -/

namespace Pipeline

/-- The fewest characters that a success consumes. -/
def leastLength : Pipeline → Nat
  | character _ | takeWhile1 _ _ | number | pattern _ => 1
  | literal t => t.length
  | endOfInput => 0
  | skip p => p.leastLength
  | followedBy p q => p.leastLength + q.leastLength

/-- Whether every success consumes the same number of characters. -/
def hasFixedLength : Pipeline → Bool
  | character _ | literal _ | endOfInput => true
  | takeWhile1 _ _ | number | pattern _ => false
  | skip p => p.hasFixedLength
  | followedBy p q => p.hasFixedLength && q.hasFixedLength

/-- **A pipeline consumes its least length at least.** -/
theorem consumes_parse (p : Pipeline) (input : Text) :
    Consumes p.leastLength p.hasFixedLength input (p.parse input) := by
  induction p generalizing input with
  | character c => exact (Parser.consumes_character c input).mapValue _
  | literal t => exact (Parser.consumes_literal t input).mapValue _
  | takeWhile1 name accepts => exact (Parser.consumes_takeWhile1 name accepts input).mapValue _
  | number => exact (Parser.consumes_number input).mapValue _
  | pattern q => exact (Parser.consumes_pattern q input).mapValue _
  | endOfInput => exact (Parser.consumes_endOfInput input).mapValue _
  | skip p ih => exact (ih input).mapValue _
  | followedBy p q ihp ihq => exact (ihp input).andThen fun first rest => (ihq rest).mapValue _

/-! ### Lengths of leaves -/

variable (p : Pipeline)

/-- The least length is that of the leaves together. -/
theorem leastLength_eq_sum :
    p.leastLength = (p.leaves.map fun leaf => leaf.primitive.leastLength).sum := by
  induction p with
  | character | literal | takeWhile1 | number | pattern | endOfInput => rfl
  | skip p ih =>
    rw [leastLength, ih, leaves, List.map_map]
    rfl
  | followedBy p q ihp ihq => rw [leastLength, ihp, ihq, leaves, List.map_append, List.sum_append]

/-- The length is fixed where that of every leaf is. -/
theorem hasFixedLength_iff :
    p.hasFixedLength = true ↔ ∀ leaf ∈ p.leaves, leaf.primitive.hasFixedLength = true := by
  induction p with
  | character | literal | takeWhile1 | number | pattern | endOfInput =>
    simp [leaves, hasFixedLength]
  | skip p ih =>
    rw [hasFixedLength, ih, leaves, List.forall_mem_map]
  | followedBy p q ihp ihq =>
    rw [hasFixedLength, Bool.and_eq_true, ihp, ihq, leaves, List.forall_mem_append]

/-- Of the primitives only the end of the input and the empty literal may consume nothing. -/
theorem leastLength_pos_of_isPrimitive {p : Pipeline} (primitive : p.isPrimitive = true)
    (notEnd : p ≠ endOfInput) (notEmpty : p ≠ literal []) : 0 < p.leastLength := by
  cases p with
  | character | takeWhile1 | number | pattern => exact Nat.one_pos
  | literal t =>
    apply List.length_pos_iff.mpr
    rintro rfl
    exact notEmpty rfl
  | endOfInput => exact absurd rfl notEnd
  | skip | followedBy => cases primitive

/-- **A parse consumes what its leaves consume at least.** A success leaves a suffix of the input
that is shorter than the input by the least lengths of all leaves together: one for a character, a
run, a number or a pattern, its own length for a literal, and none for the end of the input. It is
shorter by just as much where every leaf is a character, a literal or the end of the input. So a
pipeline with a leaf other than the end of the input and the empty literal makes progress. -/
theorem parse_consumes_leaf_lengths (input residue : Text) (value : Tokens)
    (parsed : p.parse input = .ok ⟨value, residue⟩) :
    residue <:+ input ∧
    residue.length + (p.leaves.map fun leaf => leaf.primitive.leastLength).sum ≤ input.length ∧
    ((∀ leaf ∈ p.leaves, leaf.primitive.hasFixedLength = true) →
      residue.length + (p.leaves.map fun leaf => leaf.primitive.leastLength).sum = input.length) ∧
    ∀ leaf ∈ p.leaves, leaf.primitive ≠ endOfInput → leaf.primitive ≠ literal [] →
      residue.length < input.length := by
  obtain ⟨least, fixed⟩ := p.consumes_parse input value residue parsed
  rw [leastLength_eq_sum] at least
  rw [leastLength_eq_sum, hasFixedLength_iff] at fixed
  refine ⟨residue_suffix parsed, least, fixed, ?_⟩
  intro leaf hleaf notEnd notEmpty
  have positive : 0 < leaf.primitive.leastLength :=
    leastLength_pos_of_isPrimitive (isPrimitive_of_mem_leaves hleaf) notEnd notEmpty
  have sum : 0 < (p.leaves.map fun leaf => leaf.primitive.leastLength).sum :=
    List.sum_pos_iff_exists_pos_nat.mpr ⟨_, List.mem_map_of_mem hleaf, positive⟩
  omega

/-- A number of three digits is longer than it has to be; a literal and a character never are. -/
theorem parse_consumes_leaf_lengths_behind_literal :
    (followedBy (skip (literal "né".toList)) (followedBy (character '=') number)).parse
        "né=042;".toList = .ok ⟨.pair (.char '=') (.number 42), ";".toList⟩ ∧
      ";".toList.length + 4 ≤ "né=042;".toList.length ∧
    (followedBy (skip (literal "né".toList)) (character '=')).parse "né=042;".toList =
        .ok ⟨.char '=', "042;".toList⟩ ∧
      "042;".toList.length + 3 = "né=042;".toList.length := by
  have longer : (followedBy (skip (literal "né".toList)) (followedBy (character '=') number)).parse
      "né=042;".toList = .ok ⟨.pair (.char '=') (.number 42), ";".toList⟩ := by
    decide +kernel
  have exactly : (followedBy (skip (literal "né".toList)) (character '=')).parse "né=042;".toList =
      .ok ⟨.char '=', "042;".toList⟩ := by
    decide +kernel
  obtain ⟨-, least, -⟩ := parse_consumes_leaf_lengths _ _ _ _ longer
  obtain ⟨-, -, fixed, -⟩ := parse_consumes_leaf_lengths _ _ _ _ exactly
  exact ⟨longer, least, exactly, fixed (by decide)⟩

end Pipeline

end LineGrammar
