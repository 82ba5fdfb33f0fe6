import LineGrammar.Proofs.RepeatedSet

/-!
Where matches begin. A thread keeps the place where its match begins for as long as it lives, and an
anchored automaton begins matches at the start of the text only. So what an anchored automaton finds
begins at the start, and a match never reaches past the text. A parser from a pattern looks at the
end of the match alone: what it consumes is the text in front of the match and then the match.

* `Automaton.settle_origins`, `Automaton.arrive_origins`, `Automaton.read_origins`: what one place
  keeps.
* `Automaton.search_span`: where a match begins and ends.
* `Parser.exists_span_of_pattern`: what a pattern consumes.
-/

namespace LineGrammar

namespace Automaton

/-- Where the match of a live thread may begin, at a place of the text. -/
def MayBegin (a : Automaton) (place origin : Nat) : Prop :=
  origin ≤ place ∧ (a.anchored = true → origin = 0)

/-- Where a match that is found up to a place of the text begins and ends. -/
def Finds (a : Automaton) (place : Nat) (span : Span) : Prop :=
  span.start + span.length ≤ place ∧ (a.anchored = true → span.start = 0)

variable {a : Automaton} {place : Nat}

theorem MayBegin.succ {origin : Nat} (h : a.MayBegin place origin) : a.MayBegin (place + 1) origin :=
  ⟨Nat.le_succ_of_le h.1, h.2⟩

theorem Finds.mono {span : Span} (h : a.Finds place span) {later : Nat} (le : place ≤ later) :
    a.Finds later span :=
  ⟨Nat.le_trans h.1 le, h.2⟩

/-- Threads that are followed without reading begin where they began. -/
theorem settle_origins (P : Nat → Prop) (before after : Option Char) (fuel : Nat)
    (entered : Std.HashSet Nat) (threads waiting : List Thread)
    (hthreads : ∀ thread ∈ threads, P thread.origin)
    (hwaiting : ∀ thread ∈ waiting, P thread.origin) :
    (∀ thread ∈ (a.settle before after fuel entered threads waiting).waiting, P thread.origin) ∧
      ∀ origin, (a.settle before after fuel entered threads waiting).accepted = some origin →
        P origin := by
  have reversed {waiting : List Thread} (h : ∀ thread ∈ waiting, P thread.origin) :
      ∀ thread ∈ waiting.reverse, P thread.origin :=
    fun thread hthread => h thread (List.mem_reverse.mp hthread)
  induction fuel generalizing entered threads waiting with
  | zero => exact ⟨reversed hwaiting, nofun⟩
  | succ fuel ih =>
    cases threads with
    | nil => exact ⟨reversed hwaiting, nofun⟩
    | cons thread threads =>
      obtain ⟨origin, state⟩ := thread
      obtain ⟨hfirst, hrest⟩ := List.forall_mem_cons.mp hthreads
      rw [settle]
      split
      · exact ih _ _ _ hrest hwaiting
      · cases a.states[state]? with
        | none => exact ih _ _ _ hrest hwaiting
        | some s =>
          cases s with
          | accept =>
            refine ⟨reversed hwaiting, fun accepted h => ?_⟩
            cases h
            exact hfirst
          | char c next | set s next =>
            exact ih _ _ _ hrest (List.forall_mem_cons.mpr ⟨hfirst, hwaiting⟩)
          | look l next =>
            dsimp only
            split
            · exact ih _ _ _ (List.forall_mem_cons.mpr ⟨hfirst, hrest⟩) hwaiting
            · exact ih _ _ _ hrest hwaiting
          | fork first second =>
            refine ih _ _ _ ?_ hwaiting
            exact List.forall_mem_cons.mpr ⟨hfirst, List.forall_mem_cons.mpr ⟨hfirst, hrest⟩⟩

/-- At a place a thread begins only where a match may begin. -/
theorem arrive_origins {before after : Option Char} {best : Option Span} {live : List Thread}
    (hbest : ∀ span, best = some span → a.Finds place span)
    (hlive : ∀ thread ∈ live, a.MayBegin place thread.origin) :
    (∀ thread ∈ (a.arrive place before after best live).1, a.MayBegin place thread.origin) ∧
      ∀ span, (a.arrive place before after best live).2 = some span →
        a.Finds place span := by
  let begins := place == 0 || !(a.anchored || best.isSome)
  let started := if begins then live ++ [⟨place, a.start⟩] else live
  have fresh (h : begins = true) : a.MayBegin place place := by
    refine ⟨Nat.le_refl place, fun anchored => ?_⟩
    simpa [begins, anchored] using h
  have hstarted : ∀ thread ∈ started, a.MayBegin place thread.origin := by
    intro thread hthread
    by_cases h : begins = true
    · rw [show started = live ++ [⟨place, a.start⟩] from if_pos h] at hthread
      rcases List.mem_append.mp hthread with hthread | hthread
      · exact hlive thread hthread
      · rw [List.mem_singleton.mp hthread]
        exact fresh h
    · rw [show started = live from if_neg h] at hthread
      exact hlive thread hthread
  obtain ⟨waiting, accepted⟩ :=
    settle_origins (a.MayBegin place) before after a.fuel ∅ started [] hstarted nofun
  simp only [arrive]
  split
  · next origin h =>
    refine ⟨waiting, fun span hspan => ?_⟩
    cases hspan
    obtain ⟨le, anchored⟩ := accepted origin h
    exact ⟨Nat.le_of_eq (Nat.add_sub_cancel' le), anchored⟩
  · exact ⟨waiting, hbest⟩

/-- Reading a character leaves the beginnings of matches alone. -/
theorem read_origins {c : Char} {live : List Thread} {P : Nat → Prop}
    (h : ∀ thread ∈ live, P thread.origin) :
    ∀ thread ∈ live.filterMap (a.read c), P thread.origin := by
  intro thread hthread
  obtain ⟨waiting, hwaiting, hread⟩ := List.mem_filterMap.mp hthread
  have same : thread.origin = waiting.origin := by
    rw [read] at hread
    split at hread
    · split at hread
      · cases hread
        rfl
      · cases hread
    · split at hread
      · cases hread
        rfl
      · cases hread
    · cases hread
  rw [same]
  exact h waiting hwaiting

/-- From place to place, what is found begins where a match may begin. -/
theorem run_span {before : Option Char} {best : Option Span} {live : List Thread} {t : Text}
    (hbest : ∀ span, best = some span → a.Finds place span)
    (hlive : ∀ thread ∈ live, a.MayBegin place thread.origin) :
    ∀ span, a.run place before best live t = some span →
      a.Finds (place + t.length) span := by
  induction t generalizing place before best live with
  | nil => exact (arrive_origins hbest hlive).2
  | cons c rest ih =>
    intro span h
    obtain ⟨waiting, found⟩ := @arrive_origins a place before (some c) best live hbest hlive
    rw [run] at h
    split at h
    · exact (found span h).mono (Nat.le_add_right _ _)
    · have later := ih (fun other hother => (found other hother).mono (Nat.le_succ place))
        (fun thread hthread => (read_origins waiting thread hthread).succ) span h
      rwa [List.length_cons, Nat.add_comm rest.length, ← Nat.add_assoc]

/-- A match lies within the text, and that of an anchored automaton begins where the text does. -/
theorem search_span {t : Text} {span : Span} (h : a.search t = some span) :
    span.start + span.length ≤ t.length ∧ (a.anchored = true → span.start = 0) := by
  have found : a.Finds (0 + t.length) span := by
    refine run_span ?_ ?_ span h
    · intro best none
      cases none
    · intro thread none
      cases none
  rwa [Nat.zero_add] at found

end Automaton

/-- The text of a match. -/
def Span.text (span : Span) (input : Text) : Text := (input.drop span.start).take span.length

/-- What a pattern consumes is what stands in front of its match and then the match. -/
theorem Parser.exists_span_of_pattern {p : Pattern} {input : Text} {parsed : Parsed Text}
    (h : pattern p input = .ok parsed) :
    ∃ span, p.automaton.search input = some span ∧ span.length ≠ 0 ∧
      span.start + span.length ≤ input.length ∧
      parsed.value = input.take span.start ++ span.text input ∧
      parsed.residue = input.drop (span.start + span.length) := by
  cases found : p.automaton.search input with
  | none =>
    rw [pattern_of_search_none found] at h
    cases h
  | some span =>
    obtain ⟨start, length⟩ := span
    by_cases empty : length = 0
    · rw [pattern, found, empty] at h
      cases h
    · rw [pattern_of_search_some found empty] at h
      cases h
      exact ⟨_, rfl, empty, (Automaton.search_span found).1, List.take_add, rfl⟩

end LineGrammar
