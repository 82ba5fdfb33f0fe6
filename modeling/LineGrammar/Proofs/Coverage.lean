import LineGrammar.Proofs.Lines
import LineGrammar.Proofs.Trace

/-!
Which lines a check that keeps going answers, and under which numbers. The sections of a network
are checked apart, each with numbers of its own making; put together, the numbers are those of the
lines of the whole text, and no line with content in the node section is left out.

* `Run.covers_lines`: the account of all results of a check that keeps going, by the lines of the
  whole text.
-/

namespace LineGrammar

/-- The results of the lines with content from line `first` of a text on, each read as a node. -/
def Text.nodeResults (t : Text) (first : Nat) : List LineResult :=
  ((numberedFrom 1 t.lines).filter fun line => first ≤ line.1 && !line.2.isBlank).map
    fun line => ⟨line.1, (Node.parse line.2).map Node.text⟩

/-- Line numbers that go up from each result to the next. -/
def LineResult.Ascending (results : List LineResult) : Prop :=
  (results.map LineResult.line).Pairwise (· < ·)

namespace Text

/-- Node lines checked on their own, as the end of a text, have the results of that text. -/
theorem map_result_ofNodes {t block : Text} {first : Nat} {front : List Text}
    (hlines : t.lines = front ++ block.lines) (hfirst : 1 + front.length = first) :
    (Task.ofNodes first block).map Task.result = t.nodeResults first := by
  rw [nodeResults, hlines, ← hfirst, filter_numberedFrom, Task.ofNodes, List.map_map]
  rfl

theorem ascending_nodeResults (t : Text) (first : Nat) :
    LineResult.Ascending (t.nodeResults first) := by
  rw [LineResult.Ascending, nodeResults, List.map_map]
  exact List.pairwise_map.mpr ((pairwise_numberedFrom 1 t.lines).filter _)

theorem le_line_of_mem_nodeResults {t : Text} {first : Nat} {r : LineResult}
    (h : r ∈ t.nodeResults first) : first ≤ r.line := by
  obtain ⟨line, hline, rfl⟩ := List.mem_map.mp h
  have keep := (List.mem_filter.mp hline).2
  exact of_decide_eq_true (Bool.and_eq_true_iff.mp keep).1

end Text

namespace Sections

variable {t : Text} {s : Sections}

/-- The directions stand for a line in front of all node lines. -/
theorem firstContentLine_lt (h : split t = some s) :
    s.directions.firstContentLine < s.firstNodeLine := by
  have := s.directions.firstContentLine_le
  rw [(eq_of_split h).2]
  omega

/-- The first character of the directions that is not blank stands on the line of the whole text
that the directions stand for. -/
theorem content_of_split (h : split t = some s) {blanks after : Text} {c : Char}
    (hdirections : s.directions = blanks ++ c :: after) (hblanks : blanks.isBlank = true)
    (hc : isBlank c = false) :
    s.directions.firstContentLine = blanks.count '\n' + 1 ∧
      ∃ x y : Text, t.lines[blanks.count '\n']? = some (x ++ c :: y) ∧ x.isBlank = true := by
  obtain ⟨⟨ending, -, htext⟩, -⟩ := eq_of_split h
  refine ⟨hdirections ▸ Text.firstContentLine_of_content hblanks hc after, ?_⟩
  obtain ⟨front, x, y, back, hlines, hlength, -, hx⟩ :=
    Text.lines_around_content hblanks hc (after ++ (ending ++ ending) ++ s.nodes)
  have whole : t = blanks ++ c :: (after ++ (ending ++ ending) ++ s.nodes) := by
    rw [htext, hdirections, List.append_assoc, List.append_assoc, List.cons_append,
      ← List.append_assoc after]
  refine ⟨x, y, ?_, hx⟩
  rw [whole, hlines, ← hlength, List.getElem?_append_right (Nat.le_refl _), Nat.sub_self]
  rfl

end Sections

/-- **A check that keeps going answers every line with content under its number.** For node lines
the results are those of the lines of the text. For a network that has its two sections, the text
is the directions, two line endings of one kind, and the nodes, whose lines are the lines of the
text from the first node line on; the results are that of the directions and then those of the
lines of the text from there on. The directions are numbered by the line of the text that holds
their first character that is not blank, and by 1 if there is none. The numbers always go up. -/
theorem Run.covers_lines (t : Text) :
    ((check .nodes true t).outcome = .ok (t.nodeResults 1) ∧
      (check .nodes true t).streamed = t.nodeResults 1 ∧
      LineResult.Ascending (t.nodeResults 1)) ∧
    ∀ s, Sections.split t = some s →
      (t = s.directions ++ "\n\n".toList ++ s.nodes ∨
        t = s.directions ++ "\r\n\r\n".toList ++ s.nodes) ∧
      (∃ k, s.firstNodeLine = k + 1 ∧ s.nodes.lines = t.lines.drop k) ∧
      ∃ number results,
        results = ⟨number, Directions.parse s.directions⟩ :: t.nodeResults s.firstNodeLine ∧
        (check .network true t).outcome = .ok results ∧
        (check .network true t).streamed = results ∧
        LineResult.Ascending results ∧
        (s.directions.isBlank = true → number = 1) ∧
        ∀ (blanks : Text) (c : Char) (after : Text), s.directions = blanks ++ c :: after →
          blanks.isBlank = true → isBlank c = false →
          ∃ (k : Nat) (x y : Text), number = k + 1 ∧ k = blanks.count '\n' ∧
            t.lines[k]? = some (x ++ c :: y) ∧ x.isBlank = true := by
  refine ⟨?_, fun s hs => ?_⟩
  · have tasks : Grammar.nodes.tasks t = .ok (Task.ofNodes 1 t) := rfl
    have results : (Task.ofNodes 1 t).map Task.result = t.nodeResults 1 :=
      Text.map_result_ofNodes (List.nil_append _).symm rfl
    rw [outcome_keepGoing tasks, streamed_keepGoing tasks, results]
    exact ⟨rfl, rfl, t.ascending_nodeResults 1⟩
  · obtain ⟨⟨ending, hending, htext⟩, -⟩ := Sections.eq_of_split hs
    obtain ⟨front, hlines, hfirst⟩ := Sections.lines_of_split hs
    refine ⟨?_, ⟨front.length, ?_, ?_⟩, s.directions.firstContentLine, _, rfl, ?_⟩
    · cases hending with
      | feed => exact .inl htext
      | returnFeed => exact .inr htext
    · rw [← hfirst, Nat.add_comm]
    · rw [hlines, List.drop_left]
    · have tasks : Grammar.network.tasks t =
          .ok (Task.ofDirections s.directions :: Task.ofNodes s.firstNodeLine s.nodes) := by
        rw [Grammar.tasks, hs]
      rw [outcome_keepGoing tasks, streamed_keepGoing tasks, List.map_cons,
        Text.map_result_ofNodes hlines hfirst]
      refine ⟨rfl, rfl, ?_, Text.firstContentLine_of_isBlank, ?_⟩
      · refine List.pairwise_cons.mpr ⟨fun number h => ?_, t.ascending_nodeResults _⟩
        obtain ⟨r, hr, rfl⟩ := List.mem_map.mp h
        exact Nat.lt_of_lt_of_le (Sections.firstContentLine_lt hs)
          (Text.le_line_of_mem_nodeResults hr)
      · intro blanks c after hdirections hblanks hc
        obtain ⟨hnumber, x, y, hline, hx⟩ := Sections.content_of_split hs hdirections hblanks hc
        exact ⟨_, x, y, hnumber, rfl, hline, hx⟩

/-- Line endings of two characters, and a blank line in front of everything. -/
theorem Run.covers_lines_after_blank_line :
    (check .network true "\r\nLR\r\n\r\nAAA = (B, C)\r\n".toList).streamed.map
      LineResult.line = [2, 4] := by
  have split : Sections.split "\r\nLR\r\n\r\nAAA = (B, C)\r\n".toList =
      some ⟨"\r\nLR".toList, "AAA = (B, C)\r\n".toList, 4⟩ := by
    decide +kernel
  obtain ⟨-, -, number, results, rfl, -, streamed, -, -, content⟩ :=
    (covers_lines "\r\nLR\r\n\r\nAAA = (B, C)\r\n".toList).2 _ split
  obtain ⟨k, -, -, rfl, rfl, -⟩ := content "\r\n".toList 'L' ['R'] rfl rfl rfl
  rw [streamed]
  decide +kernel

end LineGrammar
