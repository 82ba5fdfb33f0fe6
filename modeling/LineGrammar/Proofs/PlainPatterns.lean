import LineGrammar.CompositionError
import LineGrammar.Proofs.PlainReading

/-!
Patterns of ASCII letters and digits against the primitives that take characters one by one. A
bracket of them with a plus sign behind it always keeps within the room of an automaton, and takes
what the primitive takes that accepts the characters of the bracket. A word of them is one state for
each character; for as long as these keep within the room, the pattern succeeds where the literal
does, and a longer word is refused.

* `Regex.total_anchored`: the room behind an anchor.
* `Regex.fits_anchoredRounds`, `Regex.fits_anchoredWord`: what keeps within the bound.
* `Pattern.exists_of_bracket`, `Pattern.build_word`: what is accepted.
* `Pattern.agrees_with_primitives` puts them together.
-/

namespace LineGrammar

/-- Characters of ASCII take one byte each. -/
theorem Text.byteSize_of_ascii {t : Text} (small : ∀ c ∈ t, c.toNat < 0x80) :
    byteSize t = t.length := by
  have counted (m : Nat) : t.foldl (fun n c => n + c.utf8Size) m = m + t.length := by
    induction t generalizing m with
    | nil => rfl
    | cons c rest ih =>
      obtain ⟨first, others⟩ := List.forall_mem_cons.mp small
      have one : c.utf8Size = 1 := Char.utf8Size_eq_one_iff.mpr (Nat.le_of_lt_succ first)
      rw [List.foldl_cons, ih others, one, List.length_cons, Nat.add_assoc, Nat.add_comm 1]
  exact (counted 0).trans (Nat.zero_add _)

namespace Regex

open Footprint

/-! ### Room -/

/-- The room that an anchor takes, with all that the automaton has besides. -/
def anchorRoom : Direction → Nat
  | .forwards => 160
  | .backwards => 168

/-- Behind an anchor an expression takes its own room, unless it is bound to the end of the text. -/
theorem total_anchored {r : Regex} (unended : r.endsText = false) (d : Direction) :
    total d (.seq (.look .textStart) r) = anchorRoom d + alone d r (weight d r) := by
  have ends : (Regex.seq (.look .textStart) r).endsText = false := by
    show (r.endsText || (r.onlyEmpty && false)) = false
    rw [unended, Bool.and_false]
    rfl
  cases d with
  | forwards =>
    show 32 + 3 * 32 + (32 + alone .forwards r _) = 160 + alone .forwards r _
    omega
  | backwards =>
    rw [total, ends]
    show 3 * 32 + 2 * 4 + 32 + (32 + alone .backwards r _) = 168 + alone .backwards r _
    omega

/-- One character of a set of ASCII characters takes little room. -/
theorem weight_ofSet_le {s : CharSet} (ascii : s.Ascii) (d : Direction) :
    alone d (ofSet s) (weight d (ofSet s)) ≤ 2048 := by
  rw [ofSet]
  cases s.only? with
  | some c =>
    show 32 * (0 + c.utf8Size) ≤ 2048
    have bytes := c.utf8Size_le_four
    omega
  | none =>
    have ways := CharSet.length_ranges_le ascii
    show Footprint.ofSet d s ≤ 2048
    rw [Footprint.ofSet.eq_def, CharSet.isAscii_of_ascii ascii, reading]
    simp only [if_true, state, transition]
    split <;> omega

theorem endsText_ofSet (s : CharSet) : (ofSet s).endsText = false := by
  rw [ofSet]
  cases s.only? <;> rfl

/-- An anchored repetition of ASCII characters keeps within the bound. -/
theorem fits_anchoredRounds {s : CharSet} (ascii : s.Ascii) : (anchoredRounds s).fits = true := by
  have unended : (rounds 1 none true (ofSet s)).endsText = false := endsText_ofSet s
  have within (d : Direction) : total d (anchoredRounds s) ≤ limit := by
    have once := weight_ofSet_le ascii d
    have body : alone d (rounds 1 none true (ofSet s)) (weight d (rounds 1 none true (ofSet s))) =
        (0 + 1) * alone d (ofSet s) (weight d (ofSet s)) + 32 + 2 * 4 := rfl
    rw [anchoredRounds, total_anchored unended, body, limit]
    cases d <;> simp only [anchorRoom] <;> omega
  rw [fits, decide_eq_true (within .forwards), decide_eq_true (within .backwards)]
  rfl

/-- The length of the longest word whose automaton keeps within the bound. -/
def longestWord : Nat := 327674

theorem fits_anchoredWord {w : Text} (small : ∀ c ∈ w, c.toNat < 0x80) :
    (anchoredWord w).fits = decide (w.length ≤ longestWord) := by
  have room (d : Direction) : total d (anchoredWord w) = anchorRoom d + 32 * w.length := by
    rw [anchoredWord, total_anchored rfl, ← Text.byteSize_of_ascii small]
    rfl
  rw [fits, room, room, ← Bool.decide_and]
  refine decide_eq_decide.mpr ?_
  rw [anchorRoom, anchorRoom, limit, longestWord]
  omega

end Regex

namespace Pattern

variable {t : Text}

/-! ### What is accepted -/

theorem build_of_read {name expression : Text} {regex : Regex}
    (h : Regex.read (anchored expression) = .ok regex) :
    build name expression = .ok ⟨name, regex.automaton⟩ := by
  rw [build, compile, h]
  rfl

theorem build_of_fault {name expression : Text} {fault : Regex.Fault}
    (h : Regex.read (anchored expression) = .error fault) :
    build name expression = .error (.invalidPattern name fault) := by
  rw [build, compile, h]
  rfl

/-- The automaton of a set repeats one state, which reads the members of the set. -/
theorem automaton_anchoredRounds {s : CharSet} (ascii : s.Ascii) :
    ∃ one : State, one.Reads s.contains 1 ∧
      (Regex.anchoredRounds s).automaton = .repeating one := by
  rw [Regex.anchoredRounds, Regex.ofSet]
  cases only : s.only? with
  | some c => exact ⟨.char c 1, .char c (CharSet.contains_of_only? ascii only), rfl⟩
  | none => exact ⟨.set s 1, .set s rfl, rfl⟩

/-- A bracket of letters and digits with a plus sign behind it takes a run of these. -/
theorem exists_of_bracket (name : Text) (nonempty : t ≠ [])
    (plain : ∀ c ∈ t, c.isAlphanum = true) :
    ∃ p, build name ("[".toList ++ t ++ "]+".toList) = .ok p ∧
      Parser.pattern p = Parser.takeWhile1 name fun c => decide (c ∈ t) := by
  have ascii : (CharSet.ofChars t).Ascii :=
    CharSet.ascii_ofChars fun c hc => Regex.toNat_lt_of_isAlphanum (plain c hc)
  have read := Regex.read_anchored_bracket nonempty plain
  rw [Regex.fits_anchoredRounds ascii, if_pos rfl] at read
  obtain ⟨one, reads, automaton⟩ := automaton_anchoredRounds ascii
  refine ⟨_, build_of_read read, ?_⟩
  rw [automaton, Parser.pattern_repeating name reads, CharSet.contains_ofChars]

/-- A word of letters and digits is accepted unless it is too long. -/
theorem build_word (name : Text) (nonempty : t ≠ []) (plain : ∀ c ∈ t, c.isAlphanum = true) :
    build name t =
      if t.length ≤ Regex.longestWord then .ok ⟨name, (Regex.anchoredWord t).automaton⟩
      else .error (.invalidPattern name .tooLarge) := by
  have read := Regex.read_anchored_word nonempty plain
  rw [Regex.fits_anchoredWord fun c hc => Regex.toNat_lt_of_isAlphanum (plain c hc)] at read
  by_cases short : t.length ≤ Regex.longestWord
  · rw [decide_eq_true short, if_pos rfl] at read
    rw [build_of_read read, if_pos short]
  · rw [decide_eq_false short, if_neg Bool.false_ne_true] at read
    rw [build_of_fault read, if_neg short]

/-- A pattern that is a word accepts what the literal accepts. -/
theorem word_eq_ok_iff (name : Text) (nonempty : t ≠ []) (input : Text) (parsed : Parsed Text) :
    Parser.pattern ⟨name, (Regex.anchoredWord t).automaton⟩ input = .ok parsed ↔
      Parser.literal t input = .ok parsed := by
  rw [Parser.pattern_anchoredWord name nonempty]
  cases Parser.literal t input with
  | ok found => rfl
  | error cause => simp

/-- **Patterns of letters and digits agree with the primitives.** For a text of ASCII letters and
digits that is not empty: the bracket of it with a plus sign behind it is always accepted, and is
the same parser as the one that takes a run of its characters, errors included. The text as a word
is accepted if it has no more characters than its automaton has room for, and then succeeds exactly
where the literal does, with the same text and the same residue; a longer word is refused as an
invalid pattern, for the room that it would take. -/
theorem agrees_with_primitives (name : Text) (nonempty : t ≠ [])
    (plain : ∀ c ∈ t, c.isAlphanum = true) :
    (∃ p, build name ("[".toList ++ t ++ "]+".toList) = .ok p ∧
      ∀ input, Parser.pattern p input = Parser.takeWhile1 name (fun c => decide (c ∈ t)) input) ∧
    (t.length ≤ Regex.longestWord →
      ∃ p, build name t = .ok p ∧
        ∀ input parsed, Parser.pattern p input = .ok parsed ↔
          Parser.literal t input = .ok parsed) ∧
    (Regex.longestWord < t.length →
      build name t = .error (.invalidPattern name .tooLarge)) := by
  refine ⟨?_, fun short => ?_, fun long => ?_⟩
  · obtain ⟨p, accepted, same⟩ := exists_of_bracket name nonempty plain
    exact ⟨p, accepted, congrFun same⟩
  · rw [build_word name nonempty plain, if_pos short]
    exact ⟨_, rfl, word_eq_ok_iff name nonempty⟩
  · rw [build_word name nonempty plain, if_neg (Nat.not_le.mpr long)]

/-- Three characters, two of them the same; and as many letters as there is no room for. -/
theorem agrees_with_primitives_of_label :
    (∃ p q, build "label".toList "[a7a]+".toList = .ok p ∧
      build "label".toList "a7a".toList = .ok q ∧
      Parser.pattern p "7aab".toList = .ok ⟨"7aa".toList, "b".toList⟩ ∧
      Parser.pattern p "é7".toList = .error (.noMatch "label".toList "é7".toList) ∧
      Parser.pattern q "a7a7".toList = .ok ⟨"a7a".toList, "7".toList⟩) ∧
    build "label".toList (.replicate 327680 'a') =
      .error (.invalidPattern "label".toList .tooLarge) := by
  obtain ⟨⟨p, bracket, runs⟩, word, -⟩ :=
    agrees_with_primitives (t := "a7a".toList) "label".toList nofun (List.all_eq_true.mp rfl)
  obtain ⟨q, accepted, same⟩ := word (by decide)
  obtain ⟨-, -, refused⟩ := agrees_with_primitives (t := .replicate 327680 'a') "label".toList
    (List.ne_nil_of_length_pos (by rw [List.length_replicate]; decide))
    (fun c hc => by rw [List.eq_of_mem_replicate hc]; rfl)
  refine ⟨⟨p, q, bracket, accepted, ?_, ?_, ?_⟩, refused ?_⟩
  · rw [runs]
    rfl
  · rw [runs]
    rfl
  · rw [same]
    rfl
  · rw [List.length_replicate]
    decide

/-- A word may be too long: its automaton would take more room than there is, and the pattern is
refused where the literal is a parser. -/
theorem not_always_as_primitives :
    ¬∀ name t, t ≠ [] → (∀ c ∈ t, c.isAlphanum = true) →
      (∃ p, build name ("[".toList ++ t ++ "]+".toList) = .ok p ∧
        ∀ input, Parser.pattern p input = Parser.takeWhile1 name (fun c => decide (c ∈ t)) input) ∧
      ∃ p, build name t = .ok p ∧
        ∀ input parsed, Parser.pattern p input = .ok parsed ↔
          Parser.literal t input = .ok parsed := by
  intro claim
  have nonempty : List.replicate 327680 'a' ≠ [] :=
    List.ne_nil_of_length_pos (by rw [List.length_replicate]; decide)
  have plain : ∀ c ∈ List.replicate 327680 'a', c.isAlphanum = true := by
    intro c hc
    rw [List.eq_of_mem_replicate hc]
    rfl
  have refused := build_word "word".toList nonempty plain
  rw [List.length_replicate, if_neg (by decide)] at refused
  obtain ⟨-, p, accepted, -⟩ := claim "word".toList _ nonempty plain
  rw [refused] at accepted
  cases accepted

end Pattern

end LineGrammar
