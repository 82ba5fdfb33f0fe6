import LineGrammar.Network.Directions
import LineGrammar.Proofs.CharRuns
import Std.Data.HashSet.Lemmas

/-!
Patterns that repeat one character of some kind, such as that of the directions. Their automaton has
one state that reads; from the second place on one thread waits in it for as long as there are
accepted characters, and at every place the best match is what has been read. So the search finds
the longest run of accepted characters in front of the text, which is the run that `takeWhile1`
takes.

* `Automaton.search_repeating`: what the search finds.
* `Parser.pattern_repeating`: the pattern is the primitive that takes a run.
* `Directions.parse_eq_ok_iff`: the texts that are directions.
-/

namespace LineGrammar

/-- An anchored repetition of the members of a set, at least one. -/
def Regex.repeatedSet (s : CharSet) : Regex := .seq (.look .textStart) (.rounds 1 none true (.set s))

/-- A state that reads one character, of those that are accepted, and goes on to another state. -/
inductive State.Reads (accepts : Char → Bool) (next : Nat) : State → Prop where
  | char (c : Char) (only : ∀ d, accepts d = decide (d = c)) : Reads accepts next (.char c next)
  | set (s : CharSet) (members : s.contains = accepts) : Reads accepts next (.set s next)

namespace Automaton

/-- The automaton of an anchored repetition. The anchor comes first, then the state that reads;
behind it another round is preferred to leaving. -/
def repeating (one : State) : Automaton :=
  ⟨#[.accept, .fork 2 0, one, .look .textStart 2], 3, true⟩

theorem automaton_repeatedSet (s : CharSet) :
    (Regex.repeatedSet s).automaton = repeating (.set s 1) := rfl

variable {one : State} {accepts : Char → Bool}

/-- Where the text begins, one thread passes the anchor and waits. -/
theorem arrive_repeating_start (reads : one.Reads accepts 1) (after : Option Char) :
    (repeating one).arrive 0 none after none [] = ([⟨0, 2⟩], none) := by
  cases reads <;> simp [repeating, arrive, settle, fuel, Look.holds]

/-- Behind a round the thread waits for another one, and what has been read is a match. -/
theorem arrive_repeating_round (reads : one.Reads accepts 1) {place : Nat} (h : place ≠ 0)
    (before after : Option Char) (best : Option Span) :
    (repeating one).arrive place before after best [⟨0, 1⟩] = ([⟨0, 2⟩], some ⟨0, place⟩) := by
  cases reads <;> simp [repeating, arrive, settle, fuel, h]

/-- An accepted character leads the waiting thread behind its round; any other one ends it. -/
theorem read_repeating (reads : one.Reads accepts 1) (c : Char) :
    [⟨0, 2⟩].filterMap ((repeating one).read c) = if accepts c then [⟨0, 1⟩] else [] := by
  cases reads with
  | char d only =>
    rw [only]
    by_cases h : c = d <;> simp [repeating, read, h]
  | set s members =>
    rw [← members]
    cases h : s.contains c <;> simp [repeating, read, h]

/-- From behind a round the run goes on to the end of the accepted characters. -/
theorem run_repeating (reads : one.Reads accepts 1) {place : Nat} (h : place ≠ 0)
    (before : Option Char) (best : Option Span) (rest : Text) :
    (repeating one).run place before best [⟨0, 1⟩] rest =
      some ⟨0, place + (rest.takeWhile accepts).length⟩ := by
  induction rest generalizing place before best with
  | nil =>
    rw [run, arrive_repeating_round reads h]
    rfl
  | cons c rest ih =>
    rw [run, arrive_repeating_round reads h, read_repeating reads, List.takeWhile_cons]
    cases hc : accepts c with
    | false => rfl
    | true =>
      show run _ (place + 1) _ _ [⟨0, 1⟩] rest = _
      rw [ih (Nat.succ_ne_zero place), if_pos rfl, List.length_cons, Nat.succ_add]
      rfl

/-- The search finds the run of accepted characters that the text begins with, if there is one. -/
theorem search_repeating (reads : one.Reads accepts 1) (t : Text) :
    (repeating one).search t =
      if t.takeWhile accepts = [] then none else some ⟨0, (t.takeWhile accepts).length⟩ := by
  cases t with
  | nil =>
    rw [search, run, arrive_repeating_start reads]
    rfl
  | cons c rest =>
    rw [search, run, arrive_repeating_start reads, read_repeating reads, List.takeWhile_cons]
    cases hc : accepts c with
    | false => rfl
    | true =>
      show run _ 1 _ _ [⟨0, 1⟩] rest = _
      rw [run_repeating reads (Nat.succ_ne_zero 0), if_pos rfl, if_neg (List.cons_ne_nil _ _),
        List.length_cons, Nat.add_comm 1]

end Automaton

namespace Parser

theorem pattern_of_search_none {p : Pattern} {input : Text} (h : p.automaton.search input = none) :
    pattern p input = .error (.noMatch p.name input) := by
  rw [pattern, h]

/-- A match that is not empty is consumed with what stands in front of it. -/
theorem pattern_of_search_some {p : Pattern} {input : Text} {start length : Nat}
    (h : p.automaton.search input = some ⟨start, length⟩) (nonempty : length ≠ 0) :
    pattern p input = .ok ⟨input.take (start + length), input.drop (start + length)⟩ := by
  rw [pattern, h]
  exact if_neg nonempty

/-- A pattern that repeats a state takes what the primitive takes that accepts the same. -/
theorem pattern_repeating (name : Text) {one : State} {accepts : Char → Bool}
    (reads : one.Reads accepts 1) :
    pattern ⟨name, Automaton.repeating one⟩ = takeWhile1 name accepts := by
  funext input
  have found := Automaton.search_repeating reads input
  rw [takeWhile1]
  cases h : input.takeWhile accepts with
  | nil =>
    rw [h, if_pos rfl] at found
    exact pattern_of_search_none found
  | cons c run =>
    rw [h, if_neg (List.cons_ne_nil _ _)] at found
    have cut : c :: run ++ input.dropWhile accepts = input := by
      rw [← h, List.takeWhile_append_dropWhile]
    have front : input.take (c :: run).length = c :: run := by
      rw [← cut, List.take_left]
    have back : input.drop (c :: run).length = input.dropWhile accepts := by
      calc input.drop (c :: run).length
          = (c :: run ++ input.dropWhile accepts).drop (c :: run).length := by rw [cut]
        _ = input.dropWhile accepts := List.drop_left
    have nonempty : (c :: run).length ≠ 0 := Nat.succ_ne_zero _
    have consumed := pattern_of_search_some (p := ⟨name, _⟩) found nonempty
    rwa [Nat.zero_add, front, back] at consumed

end Parser

theorem Pattern.ofValid_eq {name expression : Text} {regex : Regex}
    (h : Regex.read (anchored expression) = .ok regex)
    (valid : (Regex.read (anchored expression)).isOk = true) :
    ofValid name expression valid = ⟨name, regex.automaton⟩ := by
  rw [ofValid]
  congr 1
  split
  · next other hother =>
    rw [h] at hother
    cases hother
    rfl
  · next hother =>
    rw [h] at hother
    cases hother

namespace Directions

/-- The two turns. -/
def isTurn (c : Char) : Bool := c = 'L' || c = 'R'

/-- A turn is neither a blank nor the end of a line. -/
theorem isBlank_eq_false_of_isTurn {c : Char} (h : isTurn c = true) : isBlank c = false := by
  rcases Bool.or_eq_true_iff.mp h with h | h <;> rw [of_decide_eq_true h] <;> rfl

/-- The set in the pattern of the directions. -/
def turns : CharSet := .ofRanges [('L', 'L'), ('R', 'R')]

theorem contains_turns : turns.contains = isTurn := by
  funext c
  show ((CharSet.empty.union (.single 'L')).union (.single 'R')).contains c = _
  rw [CharSet.contains_union, CharSet.contains_union, CharSet.contains_single,
    CharSet.contains_single, CharSet.contains_empty, Bool.false_or]
  rfl

theorem pattern_eq : pattern = ⟨"directions".toList, (Regex.repeatedSet turns).automaton⟩ :=
  Pattern.ofValid_eq rfl _

/-- Reading directions is taking turns up to the end of the trimmed text. -/
theorem parse_eq (t : Text) :
    parse t = Parser.complete (Parser.takeWhile1 "directions".toList isTurn) t.trim := by
  rw [parse, pattern_eq, Automaton.automaton_repeatedSet,
    Parser.pattern_repeating _ (.set turns contains_turns)]

/-- Directions are the texts that are turns and nothing else but blanks around them, and stand for
these turns. -/
theorem parse_eq_ok_iff {t value : Text} :
    parse t = .ok value ↔ value = t.trim ∧ Text.IsRun isTurn t.trim := by
  have complete : parse t = .ok value ↔
      Parser.takeWhile1 "directions".toList isTurn t.trim = .ok ⟨value, []⟩ := by
    rw [parse_eq]
    exact ParseResult.complete_eq_ok_iff
  rw [complete, Parser.takeWhile1_eq_ok_iff]
  constructor
  · rintro ⟨run, -, h⟩
    rw [List.append_nil] at h
    exact ⟨h.symm, h ▸ run⟩
  · rintro ⟨rfl, run⟩
    exact ⟨run, nofun, (List.append_nil _).symm⟩

end Directions

end LineGrammar
