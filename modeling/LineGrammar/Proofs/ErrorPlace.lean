import LineGrammar.Proofs.CharRuns
import LineGrammar.Proofs.FlatRun

/-!
The place where a parse stopped. An error holds no position; all that it says about the place is
what it quotes of the input. It tells the truth: whatever the nesting of a pipeline, the input is
what the leaves before the failure consumed, followed by the text that the error quotes from.

* `ParseError.Quotes`: what each error says about the text that it arose on.
* `Pipeline.quotes_of_isPrimitive`: a primitive that fails quotes its own input.
* `Pipeline.exists_stop`: a failure splits the leaves and the input at the place where it arose.
* `ParseError.Quotes.message_names_end_iff`: the message names the end of the input exactly when
  nothing was left there.
* `Pipeline.error_quotes_place` puts them together.
-/

namespace LineGrammar

open ParseResult

/-! ### What an error says about the input -/

namespace Text

/-- The text cut to so many characters, with dots behind it where something was cut off. -/
def cutTo (width : Nat) (t : Text) : Text :=
  t.take width ++ if width < t.length then "...".toList else []

theorem snippet_eq_cutTo (t : Text) : t.snippet = t.cutTo 32 := by
  unfold snippet cutTo snippetLength
  by_cases h : t.length ≤ 32
  · rw [if_pos h, if_neg (Nat.not_lt.mpr h), List.take_of_length_le h, List.append_nil]
  · rw [if_neg h, if_pos (Nat.lt_of_not_le h)]

theorem cutTo_eq_nil_iff {width : Nat} (positive : 0 < width) {t : Text} :
    t.cutTo width = [] ↔ t = [] := by
  constructor
  · intro h
    obtain ⟨hfront, -⟩ := List.append_eq_nil_iff.mp h
    rcases List.take_eq_nil_iff.mp hfront with hwidth | ht
    · omega
    · exact ht
  · rintro rfl
    simp [cutTo]

theorem quoted_of_ne_nil {t : Text} (h : t ≠ []) : t.quoted = '\'' :: t ++ ['\''] := by
  unfold quoted
  rw [if_neg (by simpa using h)]
  rfl

/-- The words for the end of the input do not end a text that ends in another letter. -/
theorem not_end_suffix {c : Char} (h : c ≠ 't') (t : Text) :
    ¬"end of input".toList <:+ t ++ [c] := by
  intro named
  have last := named.getLast (by decide)
  rw [List.getLast_concat] at last
  exact h last.symm

end Text

namespace ParseError

variable {cause : ParseError} {rest found : Text}

/-- The error tells the truth about the text `rest` that it arose on. -/
def Quotes (rest : Text) : ParseError → Prop
  | unexpectedCharacter expected found =>
    found = rest.take (min expected.length rest.length) ∧ found ≠ expected ∧
      (found = [] ↔ rest = [])
  | emptyMatch _ found => found = rest.cutTo 32
  | numberOutOfRange digits =>
    digits = rest.takeWhile Char.isDigit ∧ UInt64.size ≤ Nat.ofDigitChars 10 digits 0
  | trailingInput found => rest ≠ [] ∧ found = rest.cutTo 32

theorem quotes_noMatch (name input : Text) : (noMatch name input).Quotes input :=
  input.snippet_eq_cutTo

theorem quotes_leftOver (h : rest ≠ []) : (leftOver rest).Quotes rest :=
  ⟨h, rest.snippet_eq_cutTo⟩

/-- What the error shows of the input, if it shows anything of it in quotes. -/
def found? : ParseError → Option Text
  | unexpectedCharacter _ found | emptyMatch _ found | trailingInput found => some found
  | numberOutOfRange _ => none

/-- A message ends with what it quotes. -/
theorem quoted_suffix_message (h : cause.found? = some found) : found.quoted <:+ cause.message := by
  cases cause with
  | numberOutOfRange digits => cases h
  | unexpectedCharacter | emptyMatch | trailingInput =>
    cases h
    exact List.suffix_append _ _

namespace Quotes

/-- An error shows nothing exactly when there was nothing to show. -/
theorem found_eq_nil_iff (h : cause.Quotes rest) (shown : cause.found? = some found) :
    found = [] ↔ rest = [] := by
  cases cause with
  | unexpectedCharacter expected other =>
    cases shown
    exact h.2.2
  | emptyMatch name other =>
    cases shown
    rw [show found = rest.cutTo 32 from h]
    exact Text.cutTo_eq_nil_iff (by decide)
  | numberOutOfRange digits => cases shown
  | trailingInput other =>
    cases shown
    rw [h.2]
    exact Text.cutTo_eq_nil_iff (by decide)

/-- Digits that denote too large a number are at least one. -/
theorem ne_nil_of_outOfRange {digits : Text} (h : (numberOutOfRange digits).Quotes rest) :
    rest ≠ [] := by
  rintro rfl
  obtain ⟨rfl, large⟩ := h
  revert large
  decide

/-- **A message names the end of the input exactly when nothing was left.** Where something was
left, the message ends with a quote or, for a number, with words of its own. -/
theorem message_names_end_iff (h : cause.Quotes rest) :
    "end of input".toList <:+ cause.message ↔ rest = [] := by
  cases shown : cause.found? with
  | none =>
    cases cause with
    | unexpectedCharacter | emptyMatch | trailingInput => cases shown
    | numberOutOfRange digits =>
      refine iff_of_false ?_ h.ne_nil_of_outOfRange
      have ending : (numberOutOfRange digits).message =
          "Number ".toList ++ digits ++ " is out of rang".toList ++ ['e'] := by
        rw [List.append_assoc]
        rfl
      rw [ending]
      exact Text.not_end_suffix (by decide) _
  | some found =>
    rw [← h.found_eq_nil_iff shown]
    have quoted := quoted_suffix_message shown
    constructor
    · intro named
      by_cases nothing : found = []
      · exact nothing
      · obtain ⟨opening, hmessage⟩ := quoted
        rw [← hmessage, Text.quoted_of_ne_nil nothing, ← List.append_assoc] at named
        exact absurd named (Text.not_end_suffix (by decide) _)
    · rintro rfl
      exact quoted

end Quotes

end ParseError

/-! ### Primitives quote their input -/

namespace Parser

open ParseError

variable {input : Text} {cause : ParseError}

theorem quotes_of_character {expected : Char} (h : character expected input = .error cause) :
    cause.Quotes input := by
  cases input with
  | nil =>
    cases h
    simp [Quotes]
  | cons c rest =>
    rw [character] at h
    split at h
    · cases h
    · next other =>
      cases h
      simp [Quotes, other]

theorem quotes_of_literal {expected : Text} (h : literal expected input = .error cause) :
    cause.Quotes input := by
  obtain ⟨notPrefix, rfl⟩ := literal_eq_error_iff.mp h
  refine ⟨List.take_eq_take_min, ?_, ?_⟩
  · intro same
    apply notPrefix
    rw [← same]
    exact List.take_prefix _ _
  · rw [List.take_eq_nil_iff]
    constructor
    · rintro (empty | nothing)
      · -- The empty text is in front of every input, so its parser never fails.
        rw [List.eq_nil_of_length_eq_zero empty] at notPrefix
        exact absurd List.nil_prefix notPrefix
      · exact nothing
    · exact .inr

theorem quotes_of_takeWhile1 {name : Text} {accepts : Char → Bool}
    (h : takeWhile1 name accepts input = .error cause) : cause.Quotes input := by
  obtain ⟨-, rfl⟩ := takeWhile1_eq_error_iff.mp h
  exact quotes_noMatch name input

theorem quotes_of_number (h : number input = .error cause) : cause.Quotes input := by
  unfold number at h
  rcases andThen_eq_error_iff.mp h with nothing | ⟨run, rest, taken, later⟩
  · exact quotes_of_takeWhile1 nothing
  · obtain ⟨digits, stops, rfl⟩ := takeWhile1_eq_ok_iff.mp taken
    split at later
    · cases later
    · next large =>
      cases later
      exact ⟨(Text.takeWhile_run_append digits.all stops).symm, Text.word64?_eq_none_iff.mp large⟩

theorem quotes_of_pattern {p : Pattern} (h : pattern p input = .error cause) :
    cause.Quotes input := by
  unfold pattern at h
  split at h
  · split at h
    · cases h
      exact quotes_noMatch p.name input
    · cases h
  · cases h
    exact quotes_noMatch p.name input

theorem quotes_of_endOfInput (h : endOfInput input = .error cause) : cause.Quotes input := by
  cases input with
  | nil => cases h
  | cons c rest =>
    cases h
    exact quotes_leftOver (List.cons_ne_nil c rest)

end Parser

/-! ### The place of a failure -/

/-- What goes wrong on `rest`, for the leaves that have not had their turns: the first of them
fails, or there is none and `rest` should have been empty. -/
inductive StopsOn (rest : Text) (cause : ParseError) : List Leaf → Prop where
  | leaf {leaf : Leaf} {later : List Leaf} :
      leaf.primitive.parse rest = .error cause → StopsOn rest cause (leaf :: later)
  | leftOver : rest ≠ [] → cause = .leftOver rest → StopsOn rest cause []

namespace Pipeline

variable {p : Pipeline} {input rest : Text} {cause : ParseError}

/-- A primitive that fails quotes the input that it was run on. -/
theorem quotes_of_isPrimitive (primitive : p.isPrimitive = true)
    (failed : p.parse input = .error cause) : cause.Quotes input := by
  cases p with
  | character c => exact Parser.quotes_of_character (mapValue_eq_error_iff.mp failed)
  | literal t => exact Parser.quotes_of_literal (mapValue_eq_error_iff.mp failed)
  | takeWhile1 name accepts => exact Parser.quotes_of_takeWhile1 (mapValue_eq_error_iff.mp failed)
  | number => exact Parser.quotes_of_number (mapValue_eq_error_iff.mp failed)
  | pattern q => exact Parser.quotes_of_pattern (mapValue_eq_error_iff.mp failed)
  | endOfInput => exact Parser.quotes_of_endOfInput (mapValue_eq_error_iff.mp failed)
  | skip q => cases primitive
  | followedBy q r => cases primitive

/-- A failure has a place: some leaves have had their turns, and the others stop on what is
left. -/
theorem exists_stop (failed : p.parse input = .error cause ∨ p.parseComplete input = .error cause) :
    ∃ turns later rest, p.leaves = turns.map Turn.leaf ++ later ∧ Turns input turns rest ∧
      StopsOn rest cause later := by
  have leafFails (h : p.parse input = .error cause) :
      ∃ turns later rest, p.leaves = turns.map Turn.leaf ++ later ∧ Turns input turns rest ∧
        StopsOn rest cause later := by
    obtain ⟨turns, leaf, later, rest, hleaves, hturns, hleaf⟩ := exists_turns_of_parse_error h
    exact ⟨turns, leaf :: later, rest, hleaves, hturns, .leaf hleaf⟩
  rcases failed with h | h
  · exact leafFails h
  · rcases complete_eq_error_iff.mp h with fails | ⟨value, residue, parsed, nonempty, rfl⟩
    · exact leafFails fails
    · obtain ⟨turns, hleaves, hturns, -⟩ := exists_turns_of_parse parsed
      exact ⟨turns, [], residue, by rw [hleaves, List.append_nil], hturns, .leftOver nonempty rfl⟩

theorem quotes_of_stopsOn {later : List Leaf}
    (primitive : ∀ leaf ∈ later, leaf.primitive.isPrimitive = true)
    (stop : StopsOn rest cause later) : cause.Quotes rest := by
  cases stop with
  | leaf failed => exact quotes_of_isPrimitive (primitive _ List.mem_cons_self) failed
  | leftOver nonempty same =>
    rw [same]
    exact ParseError.quotes_leftOver nonempty

/-- **Every error quotes the place where parsing stopped.** When a pipeline refuses an input, for a
prefix or for the whole, some of its leaves have had their turns; the input is what they consumed
followed by a rest; and on the rest the next leaf fails or, where no leaf is left, input is left
over. The error tells the truth about this rest. Its message ends with the quoted text unless the
rest is empty, and says `end of input` in its place exactly then, which is never so for input left
over. -/
theorem error_quotes_place (p : Pipeline) (input : Text) (cause : ParseError)
    (failed : p.parse input = .error cause ∨ p.parseComplete input = .error cause) :
    ∃ turns later rest,
      (p.leaves = turns.map Turn.leaf ++ later ∧
        (∀ leaf ∈ p.leaves, leaf.primitive.isPrimitive = true) ∧
        Turns input turns rest ∧ StopsOn rest cause later ∧
        input = turns.flatMap Turn.consumed ++ rest) ∧
      cause.Quotes rest ∧
      ("end of input".toList <:+ cause.message ↔ rest = []) ∧
      (∀ found, cause.found? = some found → rest ≠ [] → '\'' :: found ++ ['\''] <:+ cause.message) ∧
      ∀ found, cause = .trailingInput found → ¬"end of input".toList <:+ cause.message := by
  obtain ⟨turns, later, rest, hleaves, hturns, stop⟩ := exists_stop failed
  have primitive (leaf : Leaf) (h : leaf ∈ p.leaves) : leaf.primitive.isPrimitive = true :=
    isPrimitive_of_mem_leaves h
  have quotes : cause.Quotes rest := by
    apply quotes_of_stopsOn _ stop
    intro leaf hleaf
    apply primitive leaf
    rw [hleaves]
    exact List.mem_append_right _ hleaf
  have names := quotes.message_names_end_iff
  refine ⟨turns, later, rest, ⟨hleaves, primitive, hturns, stop, hturns.input_eq⟩, quotes, names,
    ?_, ?_⟩
  · intro found shown nonempty
    have nonemptyFound : found ≠ [] := fun h => nonempty ((quotes.found_eq_nil_iff shown).mp h)
    rw [← Text.quoted_of_ne_nil nonemptyFound]
    exact ParseError.quoted_suffix_message shown
  · rintro found rfl named
    exact quotes.1 (names.mp named)

/-- Input is left over, one character more than an error shows; what was in front of it had been
consumed below a skip and as a number. -/
theorem error_quotes_place_of_long_rest :
    (followedBy (skip (followedBy word whitespace)) number).parseComplete
        ("ab 12".toList ++ List.replicate 33 'é') =
      .error (.trailingInput (List.replicate 32 'é' ++ "...".toList)) ∧
    ∃ (turns : List Turn) (rest : Text),
      "ab 12".toList ++ List.replicate 33 'é' = turns.flatMap Turn.consumed ++ rest ∧
        rest ≠ [] ∧ List.replicate 32 'é' ++ "...".toList = rest.cutTo 32 := by
  have failed : (followedBy (skip (followedBy word whitespace)) number).parseComplete
      ("ab 12".toList ++ List.replicate 33 'é') =
        .error (.trailingInput (List.replicate 32 'é' ++ "...".toList)) := by
    decide +kernel
  obtain ⟨turns, later, rest, ⟨-, -, -, -, hinput⟩, quotes, -⟩ :=
    error_quotes_place _ _ _ (.inr failed)
  exact ⟨failed, turns, rest, hinput, quotes⟩

end Pipeline

end LineGrammar
