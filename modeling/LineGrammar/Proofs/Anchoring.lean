import LineGrammar.Proofs.ReaderWithin
import LineGrammar.Proofs.SearchStart

/-!
Whether a pattern is anchored. The expression of a pattern is put into a group behind an anchor, as
text. The anchor covers all of it unless the text ends that group and goes on: then a bar may stand
outside of all groups, and what is behind the bar is not anchored. An expression that is one by
itself does not end the group. What a pattern consumes is in any case all that stands in front of
the match, and the match.

* `Pattern.automaton_anchored`: without a bar outside of all groups the automaton is anchored.
* `Pattern.barOutside_of_readFrom`: an expression that can be read by itself has no such bar.
* `Pattern.anchored_unless_bar_outside`: what a pattern consumes, and when that is its match.
-/

namespace LineGrammar.Pattern

open Regex (Reading OpenGroup Written readFrom)

/-! ### The group around an expression -/

/-- The group that an expression is put into, with the anchor in front of it. -/
def anchorGroup : OpenGroup := ⟨{ items := [.part { regex := .look .textStart }] }, {}, none⟩

theorem length_anchored (expression : Text) :
    (anchored expression).length + 1 = expression.length + 4 + 2 := by
  rw [anchored, List.length_append, List.length_append]
  show 4 + expression.length + 1 + 1 = _
  omega

/-- The anchor and the beginning of the group are two parts. -/
theorem readFrom_anchored (fuel : Nat) (expression : Text) :
    readFrom (fuel + 2) {} (anchored expression) =
      readFrom fuel (Reading.within {} anchorGroup) (expression ++ [')']) := rfl

/-- Within the group the anchor is all that there is outside. -/
theorem anchored_within : (Reading.within {} anchorGroup).Anchored :=
  ⟨rfl, [], rfl, fun none => nomatch none⟩

/-- Whether a bar of the anchored expression is outside of all groups. -/
def barOutside (expression : Text) : Bool :=
  Regex.barOutside ((anchored expression).length + 1) {} (anchored expression)

theorem barOutside_eq (expression : Text) :
    barOutside expression = Regex.barOutside (expression.length + 4)
      (Reading.within {} anchorGroup) (expression ++ [')']) := by
  rw [barOutside, length_anchored]
  rfl

/-! ### Patterns that are accepted -/

section Compiled

variable {name expression : Text} {p : Pattern}

theorem exists_of_compile (h : compile name expression = .ok p) :
    ∃ w, readFrom ((anchored expression).length + 1) {} (anchored expression) = .ok w ∧
      p = ⟨name, w.regex.automaton⟩ := by
  obtain ⟨regex, hread, hcompiled⟩ := exists_of_bind_eq_ok h
  cases hcompiled
  obtain ⟨w, hw, hfits⟩ := exists_of_bind_eq_ok hread
  refine ⟨w, hw, ?_⟩
  split at hfits
  · cases hfits
  · split at hfits
    · cases hfits
      rfl
    · cases hfits

/-- Without a bar outside of all groups the automaton begins matches at the start only. -/
theorem automaton_anchored (h : compile name expression = .ok p)
    (bars : barOutside expression = false) : p.automaton.anchored = true := by
  obtain ⟨w, hw, rfl⟩ := exists_of_compile h
  rw [barOutside_eq] at bars
  rw [length_anchored, readFrom_anchored] at hw
  exact Regex.startsText_of_readFrom anchored_within hw bars

/-- An expression that can be read by itself leaves no bar outside of its group. -/
theorem barOutside_of_readFrom {w : Written}
    (h : readFrom (expression.length + 1) {} expression = .ok w) :
    barOutside expression = false := by
  have le : expression.length + 1 ≤ expression.length + 4 := by omega
  rw [barOutside_eq]
  exact Regex.barOutside_within anchorGroup le (.close expression) h

/-- **A pattern consumes its match alone, unless a bar is outside of all groups.** Whatever
expression has been accepted: a success has found a match that is not empty and lies within the
input, and consumes what stands in front of the match and then the match. If no bar of the anchored
expression is outside of all groups, then the match begins where the input does, and what is
consumed is the match. That is so for every expression that can be read by itself. -/
theorem anchored_unless_bar_outside (h : compile name expression = .ok p) :
    (∀ input parsed, Parser.pattern p input = .ok parsed →
      ∃ span, p.automaton.search input = some span ∧ span.length ≠ 0 ∧
        span.start + span.length ≤ input.length ∧
        parsed.value = input.take span.start ++ span.text input ∧
        parsed.residue = input.drop (span.start + span.length) ∧
        (barOutside expression = false → span.start = 0 ∧ parsed.value = span.text input)) ∧
    ((∃ w, readFrom (expression.length + 1) {} expression = .ok w) →
      barOutside expression = false) := by
  constructor
  · intro input parsed accepted
    obtain ⟨span, found, nonempty, within, value, residue⟩ :=
      Parser.exists_span_of_pattern accepted
    refine ⟨span, found, nonempty, within, value, residue, fun bars => ?_⟩
    have start : span.start = 0 := (Automaton.search_span found).2 (automaton_anchored h bars)
    refine ⟨start, ?_⟩
    rw [value, start]
    rfl
  · rintro ⟨w, hw⟩
    exact barOutside_of_readFrom hw

end Compiled

/-- Two words, of which the second is found: the group around them holds the bar. -/
theorem anchored_unless_bar_outside_of_two_words :
    ∃ p, compile "label".toList "seeds|soil".toList = .ok p ∧
      barOutside "seeds|soil".toList = false ∧
      ∃ parsed, Parser.pattern p "soil:".toList = .ok parsed ∧ parsed.value = "soil".toList ∧
        parsed.residue = ":".toList := by
  let words : Regex :=
    .seq (.look .textStart) (.alt (.literal "seeds".toList) (.literal "soil".toList))
  have read : Regex.read (anchored "seeds|soil".toList) = .ok words := by decide +kernel
  have compiled : compile "label".toList "seeds|soil".toList =
      .ok ⟨"label".toList, words.automaton⟩ := by
    rw [compile, read]
    rfl
  have search : words.automaton.search "soil:".toList = some ⟨0, 4⟩ := by
    have automaton : words.automaton = ⟨#[.accept, .char 'l' 0, .char 'i' 1, .char 'o' 2,
        .char 's' 3, .char 's' 0, .char 'd' 5, .char 'e' 6, .char 'e' 7, .char 's' 8, .fork 9 4,
        .look .textStart 10], 11, true⟩ := by
      decide +kernel
    rw [automaton]
    show Automaton.run _ 0 none none [] ['s', 'o', 'i', 'l', ':'] = _
    simp [Automaton.run, Automaton.read, Automaton.arrive, Automaton.settle, Automaton.fuel,
      Look.holds]
  have accepted := Parser.pattern_of_search_some (p := ⟨"label".toList, words.automaton⟩) search
    (by decide)
  obtain ⟨consumed, alone⟩ := anchored_unless_bar_outside compiled
  have bars : barOutside "seeds|soil".toList = false := by
    refine alone ?_
    exact ⟨_, rfl⟩
  refine ⟨_, compiled, bars, _, accepted, ?_, rfl⟩
  obtain ⟨span, found, -, -, -, -, whole⟩ := consumed _ _ accepted
  cases search.symm.trans found
  exact (whole bars).2

/-- An expression that ends the group and goes on with a bar: the match does not begin where the
input does, and what stands in front of it is consumed. -/
theorem not_always_anchored :
    ¬∀ name expression p, compile name expression = .ok p →
      ∀ input parsed, Parser.pattern p input = .ok parsed →
        ∃ span, p.automaton.search input = some span ∧ span.start = 0 ∧
          parsed.value = span.text input := by
  intro claim
  let automaton : Automaton :=
    ⟨#[.accept, .char 'b' 0, .char 'a' 0, .look .textStart 2, .fork 3 1], 4, false⟩
  have compiled : compile "letter".toList "a)|(?:b".toList = .ok ⟨"letter".toList, automaton⟩ := rfl
  have search : automaton.search "xb".toList = some ⟨1, 1⟩ := by
    show Automaton.run automaton 0 none none [] ['x', 'b'] = _
    simp [automaton, Automaton.run, Automaton.read, Automaton.arrive, Automaton.settle,
      Automaton.fuel, Look.holds]
  have accepted := Parser.pattern_of_search_some (p := ⟨"letter".toList, automaton⟩) search
    (by decide)
  obtain ⟨span, found, start, -⟩ := claim _ _ _ compiled _ _ accepted
  cases search.symm.trans found
  cases start

end LineGrammar.Pattern
