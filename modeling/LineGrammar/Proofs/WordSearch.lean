import LineGrammar.Proofs.RepeatedSet

/-!
Patterns that are a word. Their automaton spells the word, one state for each character, behind the
anchor. One thread goes through it from the start of the text; it ends at the first character that
is not the next one of the word, and accepts at the end of the word. So the search finds the word
where the text begins with it, and nothing anywhere else.

* `State.Spells`: a text is spelled from a state on.
* `Automaton.search_of_spells`: what the search finds.
* `Parser.pattern_anchoredWord`: the pattern succeeds where the literal does.
-/

namespace LineGrammar

/-- From a state on, a text is read character by character and accepted behind it. -/
def State.Spells (states : Array State) : Nat → Text → Prop
  | n, [] => states[n]? = some .accept
  | n, c :: later => ∃ next, states[n]? = some (.char c next) ∧ Spells states next later

/-- What is spelled does not depend on states that are added. -/
theorem State.Spells.push {states : Array State} {n : Nat} {w : Text} (h : Spells states n w)
    (s : State) : Spells (states.push s) n w := by
  have kept {n : Nat} {old : State} (h : states[n]? = some old) :
      (states.push s)[n]? = some old := by
    obtain ⟨bound, rfl⟩ := Array.getElem?_eq_some_iff.mp h
    rw [Array.getElem?_push_lt bound]
  induction w generalizing n with
  | nil => exact kept h
  | cons c later ih =>
    obtain ⟨next, here, behind⟩ := h
    exact ⟨next, kept here, ih behind⟩

namespace Regex

/-- An anchored word. -/
def anchoredWord (w : Text) : Regex := .seq (.look .textStart) (.literal w)

/-- A literal is built as states that spell it. -/
theorem spells_build_literal (w : Text) :
    State.Spells ((literal w).build ⟨0, #[.accept]⟩).states
      ((literal w).build ⟨0, #[.accept]⟩).entry w := by
  induction w with
  | nil => rfl
  | cons c later ih =>
    refine ⟨((literal later).build ⟨0, #[.accept]⟩).entry, ?_, ih.push _⟩
    exact Array.getElem?_push_size

/-- The automaton of an anchored word: the anchor, and then the word is spelled. -/
theorem automaton_anchoredWord (w : Text) :
    ∃ n, (anchoredWord w).automaton.anchored = true ∧
      (anchoredWord w).automaton.states[(anchoredWord w).automaton.start]? =
        some (.look .textStart n) ∧
      State.Spells (anchoredWord w).automaton.states n w :=
  ⟨((literal w).build ⟨0, #[.accept]⟩).entry, rfl, Array.getElem?_push_size,
    (spells_build_literal w).push _⟩

end Regex

namespace Automaton

open State (Spells)

variable {a : Automaton} {n : Nat} {w : Text}

/-- Behind the start a thread that has a character to read waits. -/
theorem arrive_char (anchored : a.anchored = true) {c : Char} {next place : Nat}
    (here : a.states[n]? = some (.char c next)) (h : place ≠ 0) (before after : Option Char)
    (best : Option Span) :
    a.arrive place before after best [⟨0, n⟩] = ([⟨0, n⟩], best) := by
  simp [arrive, settle, fuel, anchored, here, h]

/-- Behind the start a thread at the end of the word has found it. -/
theorem arrive_accept (anchored : a.anchored = true) {place : Nat}
    (here : a.states[n]? = some .accept) (h : place ≠ 0) (before after : Option Char)
    (best : Option Span) :
    a.arrive place before after best [⟨0, n⟩] = ([], some ⟨0, place⟩) := by
  simp [arrive, settle, fuel, anchored, here, h]

/-- The next character of the word leads the thread on; any other one ends it. -/
theorem read_char {c : Char} {next : Nat} (here : a.states[n]? = some (.char c next)) (d : Char) :
    [⟨0, n⟩].filterMap (a.read d) = if d = c then [⟨0, next⟩] else [] := by
  by_cases h : d = c <;> simp [read, here, h]

/-- Behind the start the run finds the rest of the word, if it comes next. -/
theorem run_of_spells (anchored : a.anchored = true) (spells : Spells a.states n w) {place : Nat}
    (h : place ≠ 0) (before : Option Char) (rest : Text) :
    a.run place before none [⟨0, n⟩] rest =
      if w.isPrefixOf rest then some ⟨0, place + w.length⟩ else none := by
  induction w generalizing n place before rest with
  | nil =>
    cases rest with
    | nil =>
      rw [run, arrive_accept anchored spells h]
      rfl
    | cons d rest =>
      rw [run, arrive_accept anchored spells h]
      simp
  | cons c later ih =>
    obtain ⟨next, here, behind⟩ := spells
    cases rest with
    | nil =>
      rw [run, arrive_char anchored here h]
      rfl
    | cons d rest =>
      rw [run, arrive_char anchored here h, read_char here]
      by_cases same : d = c
      · subst same
        simp [ih behind, Nat.add_right_comm, Nat.add_assoc]
      · simp [same, anchored, Ne.symm same]

/-- Where the text begins, one thread passes the anchor and waits for the first character. -/
theorem arrive_anchor {c : Char} {next : Nat}
    (start : a.states[a.start]? = some (.look .textStart n))
    (here : a.states[n]? = some (.char c next)) (after : Option Char) :
    a.arrive 0 none after none [] = ([⟨0, n⟩], none) := by
  have apart : a.start ≠ n := by
    intro same
    rw [same, here] at start
    cases start
  simp [arrive, settle, fuel, start, here, Look.holds, apart]

/-- The search finds a word that is not empty where the text begins with it. -/
theorem search_of_spells (anchored : a.anchored = true)
    (start : a.states[a.start]? = some (.look .textStart n)) (spells : Spells a.states n w)
    (nonempty : w ≠ []) (t : Text) :
    a.search t = if w.isPrefixOf t then some ⟨0, w.length⟩ else none := by
  obtain ⟨c, later, rfl⟩ := List.exists_cons_of_ne_nil nonempty
  obtain ⟨next, here, behind⟩ := spells
  cases t with
  | nil =>
    rw [search, run, arrive_anchor start here]
    rfl
  | cons d rest =>
    rw [search, run, arrive_anchor start here, read_char here]
    by_cases same : d = c
    · subst same
      simp [run_of_spells anchored behind, Nat.add_comm]
    · simp [same, anchored, Ne.symm same]

end Automaton

/-- A pattern that is a word succeeds where the literal does, with the same text and the same
residue; it fails with an error of its own. -/
theorem Parser.pattern_anchoredWord (name : Text) {w : Text} (nonempty : w ≠ []) (input : Text) :
    pattern ⟨name, (Regex.anchoredWord w).automaton⟩ input =
      match literal w input with
      | .ok parsed => .ok parsed
      | .error _ => .error (.noMatch name input) := by
  obtain ⟨n, anchored, start, spells⟩ := Regex.automaton_anchoredWord w
  have found := Automaton.search_of_spells anchored start spells nonempty input
  rw [literal]
  cases h : w.isPrefixOf input with
  | false =>
    rw [h] at found
    exact pattern_of_search_none found
  | true =>
    rw [h] at found
    obtain ⟨rest, rfl⟩ := List.isPrefixOf_iff_prefix.mp h
    have length : w.length ≠ 0 := mt List.eq_nil_of_length_eq_zero nonempty
    have consumed := pattern_of_search_some (p := ⟨name, _⟩) found length
    rwa [Nat.zero_add, List.take_left] at consumed

end LineGrammar
