import LineGrammar.Primitive

/-!
Runs of characters. A primitive that takes a run takes the longest one, so how a text is cut into
runs is decided by where each of them stops: at the end of the text, or at a character that the run
does not accept. `Text.run_append_inj` says that such a cut is unique, and
`Parser.takeWhile1_eq_ok_iff` that the parser finds it.
-/

namespace LineGrammar

/-- The ASCII letters by their code points. -/
theorem toNat_of_isAlpha {c : Char} (h : c.isAlpha = true) :
    (65 ≤ c.toNat ∧ c.toNat ≤ 90) ∨ (97 ≤ c.toNat ∧ c.toNat ≤ 122) := by
  rcases Bool.or_eq_true_iff.mp h with upper | lower
  · exact .inl (of_decide_eq_true upper)
  · obtain ⟨first, last⟩ := Bool.and_eq_true_iff.mp lower
    exact .inr ⟨of_decide_eq_true first, of_decide_eq_true last⟩

namespace Text

variable {accepts other : Char → Bool} {run rest : Text}

/-- A text of accepted characters, at least one. -/
structure IsRun (accepts : Char → Bool) (run : Text) : Prop where
  ne_nil : run ≠ []
  all : ∀ c ∈ run, accepts c = true

/-- Whether a run of accepted characters in front of the text ends there. -/
def Stops (accepts : Char → Bool) (rest : Text) : Prop := ∀ c ∈ rest.head?, accepts c = false

theorem stops_cons {c : Char} (h : accepts c = false) (rest : Text) : Stops accepts (c :: rest) := by
  intro d hd
  cases hd
  exact h

/-- A run stops where one of other characters begins. -/
theorem IsRun.stops (h : IsRun accepts run) (apart : ∀ c, accepts c = true → other c = false)
    (rest : Text) : Stops other (run ++ rest) := by
  obtain ⟨c, more, rfl⟩ := List.exists_cons_of_ne_nil h.ne_nil
  exact stops_cons (apart c (h.all c List.mem_cons_self)) _

theorem takeWhile_of_stops (h : Stops accepts rest) : rest.takeWhile accepts = [] := by
  cases rest with
  | nil => rfl
  | cons c more => rw [List.takeWhile_cons, h c rfl]; rfl

theorem stops_dropWhile (accepts : Char → Bool) (t : Text) : Stops accepts (t.dropWhile accepts) := by
  intro c hc
  exact Bool.eq_false_iff.mpr fun h => by
    have := List.head?_dropWhile_not accepts t
    rw [hc] at this
    simp [h] at this

theorem stops_of_takeWhile_eq_nil (h : rest.takeWhile accepts = []) : Stops accepts rest := by
  have whole := List.takeWhile_append_dropWhile (p := accepts) (l := rest)
  rw [h, List.nil_append] at whole
  rw [← whole]
  exact stops_dropWhile accepts rest

theorem takeWhile_run_append (h : ∀ c ∈ run, accepts c = true) (stops : Stops accepts rest) :
    (run ++ rest).takeWhile accepts = run := by
  rw [List.takeWhile_append_of_pos h, takeWhile_of_stops stops, List.append_nil]

/-- A text has one cut into a run and a rest that the run stops at. -/
theorem run_append_inj {run' rest' : Text} (h : IsRun accepts run) (h' : IsRun accepts run')
    (stops : Stops accepts rest) (stops' : Stops accepts rest')
    (same : run ++ rest = run' ++ rest') : run = run' ∧ rest = rest' := by
  have front : run = run' := by
    rw [← takeWhile_run_append h.all stops, same, takeWhile_run_append h'.all stops']
  subst front
  exact ⟨rfl, List.append_cancel_left same⟩

end Text

namespace Parser

open Text (IsRun Stops)

/-- The parser takes a run that stops at what is left. -/
theorem takeWhile1_eq_ok_iff {name : Text} {accepts : Char → Bool} {input run rest : Text} :
    takeWhile1 name accepts input = .ok ⟨run, rest⟩ ↔
      IsRun accepts run ∧ Stops accepts rest ∧ input = run ++ rest := by
  constructor
  · intro h
    rw [takeWhile1] at h
    split at h
    · cases h
    · next hne =>
      cases h
      refine ⟨⟨hne, fun c hc => ?_⟩, Text.stops_dropWhile accepts input, ?_⟩
      · exact List.all_eq_true.mp List.all_takeWhile c hc
      · exact List.takeWhile_append_dropWhile.symm
  · rintro ⟨run_ok, stops, rfl⟩
    have front := Text.takeWhile_run_append run_ok.all stops
    have back : (run ++ rest).dropWhile accepts = rest := by
      have whole := List.takeWhile_append_dropWhile (p := accepts) (l := run ++ rest)
      rw [front] at whole
      exact List.append_cancel_left whole
    rw [takeWhile1, front, back]
    split
    · exact absurd rfl run_ok.ne_nil
    · rfl

/-- The parser fails where a run would stop at once. -/
theorem takeWhile1_eq_error_iff {name : Text} {accepts : Char → Bool} {input : Text}
    {cause : ParseError} :
    takeWhile1 name accepts input = .error cause ↔
      Stops accepts input ∧ cause = .noMatch name input := by
  unfold takeWhile1
  constructor
  · intro h
    split at h
    · next nothing =>
      cases h
      exact ⟨Text.stops_of_takeWhile_eq_nil nothing, rfl⟩
    · cases h
  · rintro ⟨stops, rfl⟩
    rw [Text.takeWhile_of_stops stops]

theorem character_eq_ok_iff {expected c : Char} {input rest : Text} :
    character expected input = .ok ⟨c, rest⟩ ↔ c = expected ∧ input = expected :: rest := by
  constructor
  · intro h
    cases input with
    | nil => cases h
    | cons first more =>
      rw [character] at h
      split at h
      · next same =>
        cases h
        exact ⟨same, by rw [same]⟩
      · cases h
  · rintro ⟨rfl, rfl⟩
    rw [character, if_pos rfl]

theorem literal_eq_ok_iff {expected input found rest : Text} :
    literal expected input = .ok ⟨found, rest⟩ ↔ found = expected ∧ input = expected ++ rest := by
  unfold literal
  constructor
  · intro h
    split at h
    · next isPrefix =>
      cases h
      obtain ⟨rest, rfl⟩ := List.isPrefixOf_iff_prefix.mp isPrefix
      exact ⟨rfl, by rw [List.drop_left]⟩
    · cases h
  · rintro ⟨rfl, rfl⟩
    rw [if_pos (List.isPrefixOf_iff_prefix.mpr (List.prefix_append found rest)), List.drop_left]

theorem literal_eq_error_iff {expected input : Text} {cause : ParseError} :
    literal expected input = .error cause ↔
      ¬expected <+: input ∧
        cause = .unexpectedCharacter expected (input.take expected.length) := by
  unfold literal
  constructor
  · intro h
    split at h
    · cases h
    · next notPrefix =>
      cases h
      exact ⟨fun isPrefix => notPrefix (List.isPrefixOf_iff_prefix.mpr isPrefix), rfl⟩
  · rintro ⟨notPrefix, rfl⟩
    exact if_neg fun isPrefix => notPrefix (List.isPrefixOf_iff_prefix.mp isPrefix)

theorem endOfInput_eq_ok_iff {input rest : Text} :
    endOfInput input = .ok ⟨(), rest⟩ ↔ input = [] ∧ rest = [] := by
  constructor
  · intro h
    cases input with
    | nil =>
      cases h
      exact ⟨rfl, rfl⟩
    | cons c more => cases h
  · rintro ⟨rfl, rfl⟩
    rfl

end Parser

end LineGrammar
