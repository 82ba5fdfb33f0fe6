import LineGrammar.Proofs.CharRuns
import LineGrammar.Proofs.FlatRun

/-!
How far a pipeline looks. A primitive that takes a run stops because of the character behind the
run, and the end of the input is a place of its own; but no primitive other than a pattern looks
further than one character ahead. So a success that leaves something depends on what it consumed
and on the first character that it left, and more input behind that changes nothing.

* `ParseResult.LooksOneAhead`: the outcome depends on one character behind what is consumed.
* `Pipeline.looksOneAhead_parse`: so it is for every pipeline without a pattern.
* `Pipeline.parse_append_of_residue`: a success that leaves something stays the same success when
  more input follows.
-/

namespace LineGrammar

open ParseResult

/-! ### One character ahead -/

namespace ParseResult

universe u v

variable {α : Type u} {β : Type v} {run : Text → ParseResult α}

/-- Where the parser stops in front of a character, it stops there with the same value whatever
comes behind that character. -/
def LooksOneAhead (run : Text → ParseResult α) : Prop :=
  ∀ consumed ahead rest value, run (consumed ++ ahead :: rest) = .ok ⟨value, ahead :: rest⟩ →
    ∀ other, run (consumed ++ ahead :: other) = .ok ⟨value, ahead :: other⟩

namespace LooksOneAhead

theorem mapValue (h : LooksOneAhead run) (f : α → β) :
    LooksOneAhead fun input => mapValue f (run input) := by
  intro consumed ahead rest value hok other
  obtain ⟨a, ha, hvalue⟩ := mapValue_eq_ok_iff.mp hok
  exact mapValue_eq_ok_iff.mpr ⟨a, h consumed ahead rest a ha other, hvalue⟩

/-- One parser after another. The first one stops in front of what the second one consumes or, if
that is nothing, in front of what the second one leaves; there is a character in either case. -/
theorem andThen {later : α → Text → ParseResult β} (h : LooksOneAhead run)
    (suffix : ∀ input, LeavesSuffix input (run input)) (hlater : ∀ a, LooksOneAhead (later a))
    (laterSuffix : ∀ a rest, LeavesSuffix rest (later a rest)) :
    LooksOneAhead fun input => andThen (run input) later := by
  intro consumed ahead rest value hok other
  obtain ⟨a, between, ha, hvalue⟩ := andThen_eq_ok_iff.mp hok
  obtain ⟨front, hfront⟩ := suffix _ a between ha
  obtain ⟨back, rfl⟩ := laterSuffix a between value _ hvalue
  obtain rfl : front ++ back = consumed := by
    rw [← List.append_assoc] at hfront
    exact List.append_cancel_right hfront
  have first : run (front ++ (back ++ ahead :: other)) = .ok ⟨a, back ++ ahead :: other⟩ := by
    rw [List.append_assoc] at ha
    cases back with
    | nil => exact h front ahead rest a ha other
    | cons c back => exact h front c (back ++ ahead :: rest) a ha (back ++ ahead :: other)
  rw [List.append_assoc]
  exact andThen_eq_ok_iff.mpr ⟨a, _, first, hlater a back ahead rest value hvalue other⟩

end LooksOneAhead

end ParseResult

/-! ### Primitives -/

namespace Parser

theorem looksOneAhead_character (c : Char) : LooksOneAhead (character c) := by
  intro consumed ahead rest value hok other
  obtain ⟨rfl, hinput⟩ := character_eq_ok_iff.mp hok
  obtain rfl : consumed = [value] := List.append_cancel_right hinput
  exact character_eq_ok_iff.mpr ⟨rfl, rfl⟩

theorem looksOneAhead_literal (t : Text) : LooksOneAhead (literal t) := by
  intro consumed ahead rest value hok other
  obtain ⟨rfl, hinput⟩ := literal_eq_ok_iff.mp hok
  obtain rfl : consumed = value := List.append_cancel_right hinput
  exact literal_eq_ok_iff.mpr ⟨rfl, rfl⟩

/-- A run stops at the character behind it. -/
theorem looksOneAhead_takeWhile1 (name : Text) (accepts : Char → Bool) :
    LooksOneAhead (takeWhile1 name accepts) := by
  intro consumed ahead rest value hok other
  obtain ⟨isRun, stops, hinput⟩ := takeWhile1_eq_ok_iff.mp hok
  obtain rfl : consumed = value := List.append_cancel_right hinput
  exact takeWhile1_eq_ok_iff.mpr ⟨isRun, Text.stops_cons (stops ahead rfl) other, rfl⟩

theorem looksOneAhead_number : LooksOneAhead number := by
  unfold number
  apply LooksOneAhead.andThen (looksOneAhead_takeWhile1 _ _) (leavesSuffix_takeWhile1 _ _)
  · intro run consumed ahead rest value hok other
    -- Reading the digits as a number consumes nothing more.
    split at hok
    · next n =>
      injection Except.ok.inj hok with hvalue hnothing
      obtain rfl := List.append_left_eq_self.mp hnothing
      rw [hvalue]
      rfl
    · cases hok
  · intro run rest
    split
    · exact .ok List.suffix_rfl
    · exact .error

/-- The end of the input never leaves a character. -/
theorem looksOneAhead_endOfInput : LooksOneAhead endOfInput := by
  intro consumed ahead rest value hok other
  obtain ⟨-, nothing⟩ := endOfInput_eq_ok_iff.mp hok
  cases nothing

end Parser

/-! ### Pipelines -/

namespace Pipeline

/-- Whether no primitive of the pipeline is a pattern. -/
def patternFree : Pipeline → Bool
  | pattern _ => false
  | skip p => p.patternFree
  | followedBy p q => p.patternFree && q.patternFree
  | character _ | literal _ | takeWhile1 _ _ | number | endOfInput => true

/-- **A pipeline without a pattern looks one character ahead.** -/
theorem looksOneAhead_parse {p : Pipeline} (h : p.patternFree = true) : LooksOneAhead p.parse := by
  induction p with
  | character c => exact (Parser.looksOneAhead_character c).mapValue _
  | literal t => exact (Parser.looksOneAhead_literal t).mapValue _
  | takeWhile1 name accepts => exact (Parser.looksOneAhead_takeWhile1 name accepts).mapValue _
  | number => exact Parser.looksOneAhead_number.mapValue _
  | pattern q => cases h
  | endOfInput => exact Parser.looksOneAhead_endOfInput.mapValue _
  | skip p ih => exact (ih h).mapValue _
  | followedBy p q ihp ihq =>
    obtain ⟨hp, hq⟩ := Bool.and_eq_true_iff.mp h
    apply (ihp hp).andThen p.leavesSuffix_parse
    · intro first
      exact (ihq hq).mapValue _
    · intro first rest
      exact (q.leavesSuffix_parse rest).mapValue _

/-- **More input does not change a success that leaves something.** A pipeline without a pattern
that parses `input` and leaves a residue that is not empty parses every longer input with the same
value, and leaves what was added behind the residue. -/
theorem parse_append_of_residue (p : Pipeline) (h : p.patternFree = true) (input residue : Text)
    (value : Tokens) (parsed : p.parse input = .ok ⟨value, residue⟩) (left : residue ≠ [])
    (more : Text) : p.parse (input ++ more) = .ok ⟨value, residue ++ more⟩ := by
  obtain ⟨consumed, rfl⟩ := residue_suffix parsed
  obtain ⟨ahead, rest, rfl⟩ := List.exists_cons_of_ne_nil left
  rw [List.append_assoc, List.cons_append]
  exact looksOneAhead_parse h consumed ahead rest value parsed (rest ++ more)

/-- Blanks are taken as far as they go, up to the one character that is left. -/
theorem parse_append_of_residue_behind_blanks :
    (followedBy (skip word) (followedBy number whitespace)).parse "ab12 \t;".toList =
      .ok ⟨.pair (.number 12) (.text " \t".toList), ";".toList⟩ ∧
    (followedBy (skip word) (followedBy number whitespace)).parse ("ab12 \t;".toList ++ " 3".toList) =
      .ok ⟨.pair (.number 12) (.text " \t".toList), ";".toList ++ " 3".toList⟩ := by
  have parsed : (followedBy (skip word) (followedBy number whitespace)).parse "ab12 \t;".toList =
      .ok ⟨.pair (.number 12) (.text " \t".toList), ";".toList⟩ := by
    decide +kernel
  exact ⟨parsed, parse_append_of_residue _ rfl _ _ _ parsed (by decide) _⟩

/-- A success that leaves nothing may take more when there is more. -/
example : word.parse "ab".toList = .ok ⟨.text "ab".toList, []⟩ ∧
    word.parse ("ab".toList ++ "c".toList) = .ok ⟨.text "abc".toList, []⟩ := by
  decide +kernel

end Pipeline

end LineGrammar
