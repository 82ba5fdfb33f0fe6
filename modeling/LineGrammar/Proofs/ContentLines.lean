import LineGrammar.Proofs.Lines

/-!
Trimming, and the lines with content. A text that is one run of other characters between blanks
has one line with content: the run cannot be broken by a line feed, and everything around it is
blank, whichever lines it is on.

* `Text.exists_trim`, `Text.trim_around`: a text is blanks around its trimmed text.
* `Text.contentLines_around_run`: the one line with content of a run between blanks.
-/

namespace LineGrammar.Text

/-- The lines with something other than blanks on them, with their numbers, counted from `first`. -/
def contentFrom (first : Nat) (lines : List Text) : List (Nat × Text) :=
  (numberedFrom first lines).filter fun line => !line.2.isBlank

/-- The lines with content of a whole text. -/
def contentLines (t : Text) : List (Nat × Text) := contentFrom 1 t.lines

/-! ### Trimming -/

section Trimming

variable {blanks : Text} (h : isBlank blanks = true) (t : Text)
include h

theorem trimStart_blanks_append : trimStart (blanks ++ t) = trimStart t :=
  List.dropWhile_append_of_pos (List.all_eq_true.mp h)

theorem trimEnd_append_blanks : trimEnd (t ++ blanks) = trimEnd t := by
  have reversed : ∀ c ∈ blanks.reverse, LineGrammar.isBlank c = true := fun c hc =>
    List.all_eq_true.mp h c (List.mem_reverse.mp hc)
  rw [trimEnd, List.reverse_append, List.dropWhile_append_of_pos reversed, trimEnd]

theorem trimStart_of_isBlank : trimStart blanks = [] := by
  have := trimStart_blanks_append h []
  rwa [List.append_nil] at this

theorem trim_blanks_append : trim (blanks ++ t) = trim t := by
  rw [trim, trimStart_blanks_append h, trim]

theorem trim_append_blanks : trim (t ++ blanks) = trim t := by
  rw [trim, trimStart, List.dropWhile_append]
  split
  · next none =>
    rw [trim, trimStart, List.isEmpty_iff.mp none]
    exact congrArg trimEnd (trimStart_of_isBlank h)
  · rw [trimEnd_append_blanks h]
    rfl

end Trimming

/-- The ending of a line is trimmed away with the blanks in front of it. -/
theorem trim_withoutEnding (piece : Text) : trim (withoutEnding piece) = trim piece := by
  obtain ⟨ending, hpiece, hblank⟩ := exists_ending piece
  calc trim (withoutEnding piece)
      = trim (withoutEnding piece ++ ending) := (trim_append_blanks hblank _).symm
    _ = trim piece := by rw [← hpiece]

/-- A text is its trimmed text with blanks on both sides. -/
theorem exists_trim (t : Text) :
    ∃ front back, t = front ++ t.trim ++ back ∧ isBlank front = true ∧ isBlank back = true := by
  have start : t.takeWhile LineGrammar.isBlank ++ t.trimStart = t :=
    List.takeWhile_append_dropWhile
  have stop : t.trim ++ (t.trimStart.reverse.takeWhile LineGrammar.isBlank).reverse =
      t.trimStart := by
    rw [trim, trimEnd, ← List.reverse_append, List.takeWhile_append_dropWhile, List.reverse_reverse]
  refine ⟨t.takeWhile LineGrammar.isBlank,
    (t.trimStart.reverse.takeWhile LineGrammar.isBlank).reverse, ?_, List.all_takeWhile, ?_⟩
  · rw [List.append_assoc, stop, start]
  · rw [isBlank, List.all_reverse]
    exact List.all_takeWhile

section Run

variable {u : Text} (content : ∀ c ∈ u, LineGrammar.isBlank c = false)
include content

/-- Of a text without blanks nothing is trimmed. -/
theorem trim_of_content : trim u = u := by
  have keep {v : Text} (hv : ∀ c ∈ v, LineGrammar.isBlank c = false) :
      v.dropWhile LineGrammar.isBlank = v := by
    cases v with
    | nil => rfl
    | cons c rest => rw [List.dropWhile_cons, hv c List.mem_cons_self]; rfl
  have reversed : ∀ c ∈ u.reverse, LineGrammar.isBlank c = false := fun c hc =>
    content c (List.mem_reverse.mp hc)
  rw [trim, trimStart, keep content, trimEnd, keep reversed, List.reverse_reverse]

theorem trim_around {front back : Text} (hfront : isBlank front = true)
    (hback : isBlank back = true) : trim (front ++ u ++ back) = u := by
  rw [trim_append_blanks hback, trim_blanks_append hfront, trim_of_content content]

end Run

/-! ### Lines with content -/

theorem contentFrom_append (first : Nat) (xs ys : List Text) :
    contentFrom first (xs ++ ys) = contentFrom first xs ++ contentFrom (first + xs.length) ys := by
  rw [contentFrom, numberedFrom_append, List.filter_append]
  rfl

theorem contentFrom_of_isBlank (first : Nat) {lines : List Text}
    (h : ∀ line ∈ lines, isBlank line = true) : contentFrom first lines = [] := by
  induction lines generalizing first with
  | nil => rfl
  | cons line rest ih =>
    rw [contentFrom, numberedFrom, List.filter_cons, h line List.mem_cons_self]
    exact ih (first + 1) fun other hother => h other (List.mem_cons_of_mem _ hother)

theorem contentFrom_cons (first : Nat) {line : Text} (h : isBlank line = false) (rest : List Text) :
    contentFrom first (line :: rest) = (first, line) :: contentFrom (first + 1) rest := by
  rw [contentFrom, numberedFrom, List.filter_cons, h]
  rfl

/-- One line with content among blank ones. -/
theorem contentFrom_around (first : Nat) {front back : List Text} {line : Text}
    (hfront : ∀ other ∈ front, isBlank other = true) (hline : isBlank line = false)
    (hback : ∀ other ∈ back, isBlank other = true) :
    contentFrom first (front ++ line :: back) = [(first + front.length, line)] := by
  rw [contentFrom_append, contentFrom_of_isBlank first hfront, List.nil_append,
    contentFrom_cons _ hline, contentFrom_of_isBlank _ hback]

/-- The pieces around a run without blanks that stands between blanks. -/
theorem segments_around_run {u front back : Text} (hu : u ≠ [])
    (content : ∀ c ∈ u, LineGrammar.isBlank c = false) (hfront : isBlank front = true)
    (hback : isBlank back = true) :
    ∃ before x y after, segments (front ++ u ++ back) = before ++ (x ++ u ++ y) :: after ∧
      before.length = front.count '\n' ∧ (∀ piece ∈ before, isBlank piece = true) ∧
      isBlank x = true ∧ isBlank y = true ∧ ∀ piece ∈ after, isBlank piece = true := by
  have inside : '\n' ∉ u := fun h => by cases content _ h
  obtain ⟨y, after, hs, rfl⟩ := segments_append hu inside back
  rw [isBlank_append] at hback
  obtain ⟨hy, hafter⟩ := Bool.and_eq_true_iff.mp hback
  obtain ⟨before, x, hs, hlength, hbefore, hx⟩ := segments_blanks_append hfront hs
  refine ⟨before, x, y, after, ?_, hlength, hbefore, hx, hy, fun piece hpiece => ?_⟩
  · rw [List.append_assoc, hs, List.append_assoc]
  · exact isBlank_of_mem_pieces hafter hpiece

/-- **A run between blanks has one line with content**, on which it stands between blanks. -/
theorem contentLines_around_run {u front back : Text} (hu : u ≠ [])
    (content : ∀ c ∈ u, LineGrammar.isBlank c = false) (hfront : isBlank front = true)
    (hback : isBlank back = true) :
    ∃ line, contentLines (front ++ u ++ back) = [(front.count '\n' + 1, line)] ∧ trim line = u := by
  obtain ⟨before, x, y, after, hs, hlength, hbefore, hx, hy, hafter⟩ :=
    segments_around_run hu content hfront hback
  have hline : isBlank (withoutEnding (x ++ u ++ y)) = false := by
    obtain ⟨c, rest, rfl⟩ := List.exists_cons_of_ne_nil hu
    rw [isBlank_withoutEnding, isBlank_append, isBlank_append, isBlank_cons,
      content c List.mem_cons_self, Bool.false_and, Bool.and_false, Bool.false_and]
  refine ⟨withoutEnding (x ++ u ++ y), ?_, ?_⟩
  · rw [contentLines, lines, hs, List.map_append, List.map_cons,
      contentFrom_around 1 (fun _ => isBlank_of_mem_withoutEnding hbefore) hline
        (fun _ => isBlank_of_mem_withoutEnding hafter), List.length_map, hlength, Nat.add_comm]
  · rw [trim_withoutEnding, trim_around content hx hy]

end LineGrammar.Text
