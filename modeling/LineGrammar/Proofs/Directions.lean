import LineGrammar.Proofs.ErrorPlace
import LineGrammar.Proofs.RepeatedSet

/-!
What a block of directions is answered with. The trimmed block is cut behind the longest run of
turns in front of it, and the two pieces decide: no turns is an empty match, something behind the
turns is input left over, and nothing behind them is a success.

* `Text.LongestRun`: a text cut behind its longest run of accepted characters.
* `Parser.complete_takeWhile1_of_longestRun`: the three answers of a primitive that takes a run and
  has to be complete.
* `Directions.parse_by_longest_run`: the answer to every block of directions.
-/

namespace LineGrammar

namespace Text

/-- A text cut in two: the front is accepted, and no longer piece in front of the text is. -/
structure LongestRun (accepts : Char → Bool) (t front back : Text) : Prop where
  text_eq : t = front ++ back
  all : ∀ c ∈ front, accepts c = true
  longest : ∀ other, other <+: t → (∀ c ∈ other, accepts c = true) → other.length ≤ front.length

theorem longestRun_takeWhile (accepts : Char → Bool) (t : Text) :
    LongestRun accepts t (t.takeWhile accepts) (t.dropWhile accepts) where
  text_eq := List.takeWhile_append_dropWhile.symm
  all := by
    intro c hc
    exact List.all_eq_true.mp List.all_takeWhile c hc
  longest := by
    intro other inFront accepted
    obtain ⟨rest, rfl⟩ := inFront
    rw [List.takeWhile_append_of_pos accepted, List.length_append]
    exact Nat.le_add_right _ _

namespace LongestRun

variable {accepts : Char → Bool} {t front back : Text}

/-- Behind the longest run stands no character that would have made it longer. -/
theorem stops (h : LongestRun accepts t front back) : Stops accepts back := by
  intro c hc
  cases hback : back with
  | nil =>
    rw [hback] at hc
    cases hc
  | cons d rest =>
    rw [hback] at hc
    cases hc
    apply Bool.eq_false_iff.mpr
    intro accepted
    have longer : (front ++ [c]).length ≤ front.length := by
      apply h.longest
      · rw [h.text_eq, hback]
        exact ⟨rest, List.append_assoc front [c] rest⟩
      · intro d hd
        rcases List.mem_append.mp hd with hd | hd
        · exact h.all d hd
        · rw [List.mem_singleton.mp hd]
          exact accepted
    rw [List.length_append] at longer
    exact Nat.not_succ_le_self _ longer

end LongestRun

end Text

/-- A run that has to be complete: the text is refused at once, accepted as a whole, or accepted up
to the end of its longest run. -/
theorem Parser.complete_takeWhile1_of_longestRun {accepts : Char → Bool} {t front back : Text}
    (name : Text) (h : Text.LongestRun accepts t front back) :
    complete (takeWhile1 name accepts) t =
      if front = [] then .error (.noMatch name t)
      else if back = [] then .ok t
      else .error (.leftOver back) := by
  unfold complete
  by_cases nothing : front = []
  · have whole : back = t := by
      rw [h.text_eq, nothing, List.nil_append]
    rw [if_pos nothing, takeWhile1_eq_error_iff.mpr ⟨whole ▸ h.stops, rfl⟩,
      ParseResult.complete_error]
  · have taken : takeWhile1 name accepts t = .ok ⟨front, back⟩ :=
      takeWhile1_eq_ok_iff.mpr ⟨⟨nothing, h.all⟩, h.stops, h.text_eq⟩
    rw [if_neg nothing, taken]
    cases hback : back with
    | nil =>
      rw [if_pos rfl, h.text_eq, hback, List.append_nil]
      rfl
    | cons c rest =>
      rw [if_neg (List.cons_ne_nil c rest)]
      rfl

namespace Directions

/-- **Directions are answered by their longest run of turns.** The block, without the blanks around
it, is cut behind the longest run of turns. It stands for directions exactly when there are turns
and nothing is behind them, and is then their value. Without turns the error is an empty match
that shows the trimmed block; with something behind the turns it is input left over that shows what
is behind them; each shows 32 characters at most. -/
theorem parse_by_longest_run (t : Text) :
    ∃ front back, Text.LongestRun isTurn t.trim front back ∧
      (∀ value, parse t = .ok value ↔ value = t.trim ∧ front ≠ [] ∧ back = []) ∧
      (front = [] → parse t = .error (.emptyMatch "directions".toList (t.trim.cutTo 32))) ∧
      (front ≠ [] → back ≠ [] → parse t = .error (.trailingInput (back.cutTo 32))) := by
  have cut := Text.longestRun_takeWhile isTurn t.trim
  have answer := Parser.complete_takeWhile1_of_longestRun "directions".toList cut
  rw [← parse_eq] at answer
  refine ⟨_, _, cut, ?_, ?_, ?_⟩
  · intro value
    rw [answer]
    constructor
    · intro h
      split at h
      · cases h
      · next turns =>
        split at h
        · next whole =>
          cases h
          exact ⟨rfl, turns, whole⟩
        · cases h
    · rintro ⟨rfl, turns, whole⟩
      rw [if_neg turns, if_pos whole]
      rfl
  · intro nothing
    rw [answer, if_pos nothing, ParseError.noMatch, Text.snippet_eq_cutTo]
    rfl
  · intro turns more
    rw [answer, if_neg turns, if_neg more, ParseError.leftOver, Text.snippet_eq_cutTo]
    rfl

end Directions

end LineGrammar
