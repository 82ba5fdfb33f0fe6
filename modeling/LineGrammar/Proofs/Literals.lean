import LineGrammar.Proofs.CharRuns

/-!
A literal is the run of its characters. It succeeds where the parsers of its characters do, one
after another, and leaves what the last of them leaves. Where one of them fails the literal fails as
a whole, and quotes as much of its input as it is long: what it quotes begins with the characters
that were accepted and ends behind them or goes on with another one.

* `Parser.eachCharacter`: the characters of a text, one after another.
* `Parser.eachCharacter_eq_ok_iff`, `Parser.eachCharacter_eq_error_iff`: where all of them are
  accepted, and where the first one is refused.
* `Parser.take_of_refused`: what is quoted of an input that refuses a character.
* `Parser.literal_is_run_of_characters` puts them together.
-/

namespace LineGrammar.Parser

open ParseResult

variable {w input rest : Text} {c : Char} {cause : ParseError}

/-- The characters of a text one after another, each on what the one before left. -/
def eachCharacter : Text → Parser .text
  | [], input => .ok ⟨[], input⟩
  | c :: later, input =>
    andThen (character c input) fun first rest => mapValue (first :: ·) (eachCharacter later rest)

/-- All characters are accepted where the input begins with them. -/
theorem eachCharacter_eq_ok_iff {value : Text} :
    eachCharacter w input = .ok ⟨value, rest⟩ ↔ value = w ∧ input = w ++ rest := by
  induction w generalizing input value with
  | nil =>
    constructor
    · intro h
      cases h
      exact ⟨rfl, rfl⟩
    · rintro ⟨rfl, rfl⟩
      rfl
  | cons c later ih =>
    rw [eachCharacter, andThen_eq_ok_iff]
    constructor
    · rintro ⟨first, between, accepted, others⟩
      obtain ⟨rfl, rfl⟩ := character_eq_ok_iff.mp accepted
      obtain ⟨values, hvalues, rfl⟩ := mapValue_eq_ok_iff.mp others
      obtain ⟨rfl, rfl⟩ := ih.mp hvalues
      exact ⟨rfl, rfl⟩
    · rintro ⟨rfl, rfl⟩
      refine ⟨c, later ++ rest, character_eq_ok_iff.mpr ⟨rfl, rfl⟩, ?_⟩
      exact mapValue_eq_ok_iff.mpr ⟨later, ih.mpr ⟨rfl, rfl⟩, rfl⟩

/-- Some character is refused where those in front of it are accepted and it is not. -/
theorem eachCharacter_eq_error_iff :
    eachCharacter w input = .error cause ↔
      ∃ accepted c later rest, w = accepted ++ c :: later ∧
        eachCharacter accepted input = .ok ⟨accepted, rest⟩ ∧ character c rest = .error cause := by
  induction w generalizing input with
  | nil =>
    constructor
    · intro h
      cases h
    · rintro ⟨accepted, c, later, rest, h, -⟩
      exact absurd h.symm (List.append_ne_nil_of_right_ne_nil accepted (List.cons_ne_nil c later))
  | cons first others ih =>
    rw [eachCharacter, andThen_eq_error_iff]
    constructor
    · rintro (refused | ⟨value, between, taken, refused⟩)
      · exact ⟨[], first, others, input, rfl, rfl, refused⟩
      · obtain ⟨rfl, rfl⟩ := character_eq_ok_iff.mp taken
        obtain ⟨accepted, c, later, rest, rfl, before, stop⟩ :=
          ih.mp (mapValue_eq_error_iff.mp refused)
        obtain ⟨-, rfl⟩ := eachCharacter_eq_ok_iff.mp before
        exact ⟨value :: accepted, c, later, rest, rfl,
          eachCharacter_eq_ok_iff.mpr ⟨rfl, rfl⟩, stop⟩
    · rintro ⟨accepted, c, later, rest, split, before, stop⟩
      obtain ⟨-, rfl⟩ := eachCharacter_eq_ok_iff.mp before
      cases accepted with
      | nil =>
        cases split
        exact .inl stop
      | cons d front =>
        cases split
        refine .inr ⟨first, front ++ rest, character_eq_ok_iff.mpr ⟨rfl, rfl⟩, ?_⟩
        refine mapValue_eq_error_iff.mpr (ih.mpr ⟨front, c, later, rest, rfl, ?_, stop⟩)
        exact eachCharacter_eq_ok_iff.mpr ⟨rfl, rfl⟩

/-- A character is refused at the end of the input and in front of another character. -/
theorem head_of_refused (h : character c rest = .error cause) :
    rest = [] ∨ ∃ d more, rest = d :: more ∧ d ≠ c := by
  cases rest with
  | nil => exact .inl rfl
  | cons d more =>
    refine .inr ⟨d, more, rfl, ?_⟩
    rintro rfl
    rw [character_eq_ok_iff.mpr ⟨rfl, rfl⟩] at h
    cases h

/-- What is quoted of an input that refuses a character: what was accepted, with nothing or another
character behind it. -/
theorem take_of_refused (accepted later : Text) (h : character c rest = .error cause) :
    (accepted ++ rest).take (accepted ++ c :: later).length = accepted ∨
      ∃ d more, (accepted ++ rest).take (accepted ++ c :: later).length = accepted ++ d :: more ∧
        d ≠ c := by
  rw [List.length_append, List.take_length_add_append]
  rcases head_of_refused h with rfl | ⟨d, more, rfl, other⟩
  · exact .inl (List.append_nil accepted)
  · exact .inr ⟨d, more.take later.length, rfl, other⟩

/-- Texts that share a front and then differ are not the same. -/
theorem ne_of_other {accepted later found : Text}
    (h : found = accepted ∨ ∃ d more, found = accepted ++ d :: more ∧ d ≠ c) :
    found ≠ accepted ++ c :: later := by
  rcases h with rfl | ⟨d, more, rfl, other⟩
  · intro same
    exact List.cons_ne_nil c later (List.self_eq_append_right.mp same)
  · intro same
    exact other (List.cons.inj (List.append_cancel_left same)).1

/-- The literal of one character is the parser of that character. -/
theorem literal_singleton (c : Char) (input : Text) :
    literal [c] input = mapValue (fun d => [d]) (character c input) := by
  cases input with
  | nil => rfl
  | cons d rest =>
    by_cases h : d = c
    · rw [character_eq_ok_iff.mpr ⟨rfl, congrArg (· :: rest) h⟩]
      exact literal_eq_ok_iff.mpr ⟨rfl, congrArg (· :: rest) h⟩
    · rw [character, if_neg h]
      refine literal_eq_error_iff.mpr ⟨fun front => ?_, rfl⟩
      exact h (List.cons_prefix_cons.mp front).1.symm

/-- **A literal is the run of its characters.** It succeeds exactly where its characters do, each on
what the one before left, with the same residue and with itself as the value; the empty literal
always does, and consumes nothing. It fails exactly where one of the characters is refused. The
error then quotes as many characters of the input as the literal has, or all there are; this is not
the literal, but begins with the characters that were accepted, and ends behind them or goes on with
another character than the one that was refused. A literal of one character is the parser of that
character, its errors included. -/
theorem literal_is_run_of_characters (w input : Text) :
    (∀ parsed, literal w input = .ok parsed ↔ eachCharacter w input = .ok parsed) ∧
    (∀ parsed, literal w input = .ok parsed → parsed.value = w) ∧
    literal [] input = .ok ⟨[], input⟩ ∧
    (∀ cause, literal w input = .error cause ↔
      ∃ accepted c later rest refusal found,
        w = accepted ++ c :: later ∧
        eachCharacter accepted input = .ok ⟨accepted, rest⟩ ∧
        character c rest = .error refusal ∧ eachCharacter w input = .error refusal ∧
        cause = .unexpectedCharacter w found ∧
        found = input.take (min w.length input.length) ∧ found ≠ w ∧
        (found = accepted ∨ ∃ d more, found = accepted ++ d :: more ∧ d ≠ c)) ∧
    ∀ c, w = [c] → literal w input = mapValue (fun d => [d]) (character c input) := by
  have success (parsed : Parsed Text) :
      literal w input = .ok parsed ↔ eachCharacter w input = .ok parsed :=
    literal_eq_ok_iff.trans eachCharacter_eq_ok_iff.symm
  refine ⟨success, ?_, rfl, fun cause => ?_, ?_⟩
  · intro parsed h
    exact (literal_eq_ok_iff.mp h).1
  · constructor
    · intro h
      cases hrun : eachCharacter w input with
      | ok parsed =>
        rw [(success parsed).mpr hrun] at h
        cases h
      | error refusal =>
        obtain ⟨accepted, c, later, rest, rfl, before, stop⟩ := eachCharacter_eq_error_iff.mp hrun
        obtain ⟨-, rfl⟩ := eachCharacter_eq_ok_iff.mp before
        have quoted := take_of_refused accepted later stop
        obtain ⟨-, rfl⟩ := literal_eq_error_iff.mp h
        exact ⟨accepted, c, later, rest, refusal, _, rfl, before, stop, rfl, rfl,
          List.take_eq_take_min, ne_of_other quoted, quoted⟩
    · rintro ⟨accepted, c, later, rest, refusal, found, -, -, -, run, rfl, rfl, -⟩
      refine literal_eq_error_iff.mpr ⟨fun front => ?_, ?_⟩
      · obtain ⟨more, rfl⟩ := front
        rw [(success _).mp (literal_eq_ok_iff.mpr ⟨rfl, rfl⟩)] at run
        cases run
      · rw [← List.take_eq_take_min]
  · rintro c rfl
    exact literal_singleton c input

/-- Two letters are shared, one of them of two bytes; then the input ends. -/
example :
    literal "né=".toList "né".toList = .error (.unexpectedCharacter "né=".toList "né".toList) :=
  rfl

end LineGrammar.Parser
