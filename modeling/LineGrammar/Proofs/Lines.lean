import LineGrammar.Network.Sections

/-!
The lines of a text and their numbers. Line numbers are counted in three ways: along the lines, by
the line feeds in front of a place, and by the place of the first line with content. All of them
follow from where a text can be cut: behind a line feed, the lines before the cut and the lines
after it are those of the two parts.

* `Text.lines_append_feed`, `Text.length_lines_feed`: cutting behind a line feed.
* `Text.lines_around_content`: the line of the first character that is not blank.
* `Sections.eq_of_split`, `Sections.lines_of_split`: a text that was cut into sections, and its
  lines.
-/

namespace LineGrammar

namespace Text

/-! ### Cutting behind a line feed -/

theorem segments_feed (t : Text) : segments ('\n' :: t) = ['\n'] :: segments t := rfl

theorem segments_eq_nil_iff {t : Text} : segments t = [] ↔ t = [] := by
  constructor
  · intro h
    rw [← flatten_segments t, h]
    rfl
  · rintro rfl
    rfl

/-- A character that ends no line goes to the front of the first piece. -/
theorem segments_cons {c : Char} (h : c ≠ '\n') {t piece : Text} {pieces : List Text}
    (ht : segments t = piece :: pieces) : segments (c :: t) = (c :: piece) :: pieces := by
  rw [segments, if_neg h, ht]

theorem segments_singleton {c : Char} : segments [c] = [[c]] := by
  rw [segments, segments]
  split <;> rfl

theorem length_segments_feed (t : Text) :
    (segments (t ++ ['\n'])).length = t.count '\n' + 1 := by
  induction t with
  | nil => rfl
  | cons c rest ih =>
    by_cases h : c = '\n'
    · subst h
      rw [List.cons_append, segments_feed, List.length_cons, ih, List.count_cons_self]
    · cases hs : segments (rest ++ ['\n']) with
      | nil => exact absurd (segments_eq_nil_iff.mp hs) (List.append_ne_nil_of_right_ne_nil _ nofun)
      | cons piece pieces =>
        rw [List.cons_append, segments_cons h hs, List.count_cons_of_ne h, ← ih, hs]
        rfl

theorem lines_append_feed (x y : Text) :
    lines (x ++ '\n' :: y) = lines (x ++ ['\n']) ++ lines y := by
  rw [lines, segments_append_feed, List.map_append, lines, lines]

/-- As many lines end in a text as it has line feeds. -/
theorem length_lines_feed (t : Text) : (lines (t ++ ['\n'])).length = t.count '\n' + 1 := by
  rw [lines, List.length_map, length_segments_feed]

/-! ### Line endings -/

/-- The two ways in which a line can end. -/
inductive LineEnding : Text → Prop where
  | feed : LineEnding ['\n']
  | returnFeed : LineEnding ['\r', '\n']

theorem LineEnding.isBlank {ending : Text} (h : LineEnding ending) :
    Text.isBlank ending = true := by
  cases h <;> rfl

/-- What stands after a line ending has its own lines. -/
theorem lines_append_ending {ending : Text} (h : LineEnding ending) (before after : Text) :
    lines (before ++ ending ++ after) = lines (before ++ ending) ++ lines after := by
  cases h with
  | feed => rw [List.append_assoc, ← lines_append_feed, List.cons_append, List.nil_append]
  | returnFeed =>
    have cut := lines_append_feed (before ++ ['\r']) after
    rw [List.append_assoc, List.append_assoc] at cut
    rw [List.append_assoc]
    exact cut

theorem length_lines_ending {ending : Text} (h : LineEnding ending) (before : Text) :
    (lines (before ++ ending)).length = before.count '\n' + 1 := by
  cases h with
  | feed => exact length_lines_feed before
  | returnFeed =>
    have count := length_lines_feed (before ++ ['\r'])
    rw [List.append_assoc, List.count_append] at count
    exact count

/-- A line ending in front is an empty line. -/
theorem lines_ending_append {ending : Text} (h : LineEnding ending) (after : Text) :
    lines (ending ++ after) = [] :: lines after := by
  cases h <;> rfl

/-! ### Endings and blanks -/

theorem isBlank_append (x y : Text) : isBlank (x ++ y) = (isBlank x && isBlank y) :=
  List.all_append

theorem isBlank_cons (c : Char) (t : Text) :
    isBlank (c :: t) = (LineGrammar.isBlank c && isBlank t) := rfl

/-- The ending of a line is blank, whatever it is. -/
theorem exists_ending (piece : Text) :
    ∃ ending, piece = withoutEnding piece ++ ending ∧ isBlank ending = true := by
  rw [withoutEnding]
  split
  · next rest h =>
    refine ⟨['\r', '\n'], ?_, rfl⟩
    rw [← List.reverse_reverse piece, h, List.reverse_cons, List.reverse_cons, List.append_assoc]
    rfl
  · next rest _ h =>
    refine ⟨['\n'], ?_, rfl⟩
    rw [← List.reverse_reverse piece, h, List.reverse_cons]
  · exact ⟨[], (List.append_nil _).symm, rfl⟩

theorem isBlank_withoutEnding (piece : Text) : isBlank (withoutEnding piece) = isBlank piece := by
  obtain ⟨ending, hpiece, hblank⟩ := exists_ending piece
  calc isBlank (withoutEnding piece)
      = isBlank (withoutEnding piece ++ ending) := by rw [isBlank_append, hblank, Bool.and_true]
    _ = isBlank piece := by rw [← hpiece]

/-- The lines of blank pieces are blank. -/
theorem isBlank_of_mem_withoutEnding {pieces : List Text}
    (h : ∀ piece ∈ pieces, isBlank piece = true) {line : Text}
    (hline : line ∈ pieces.map withoutEnding) : isBlank line = true := by
  obtain ⟨piece, hpiece, rfl⟩ := List.mem_map.mp hline
  rw [isBlank_withoutEnding, h piece hpiece]

/-- A text of blanks is blank in all of its pieces. -/
theorem isBlank_of_mem_pieces {pieces : List Text} (h : isBlank pieces.flatten = true)
    {piece : Text} (hpiece : piece ∈ pieces) : isBlank piece = true :=
  List.all_eq_true.mpr fun c hc =>
    List.all_eq_true.mp h c (List.mem_flatten.mpr ⟨piece, hpiece, hc⟩)

/-- A character that is not blank stands in front of the ending. -/
theorem withoutEnding_content (x y : Text) {c : Char} (h : LineGrammar.isBlank c = false) :
    ∃ z, withoutEnding (x ++ c :: y) = x ++ c :: z := by
  obtain ⟨ending, hpiece, hblank⟩ := exists_ending (x ++ c :: y)
  have outside : c ∉ ending := fun hc => by
    rw [List.all_eq_true.mp hblank c hc] at h
    cases h
  rcases List.append_eq_append_iff.mp hpiece with ⟨z, hz, hending⟩ | ⟨z, -, hending⟩
  · cases z with
    | nil =>
      have : c ∈ [] ++ ending := hending ▸ List.mem_cons_self
      exact absurd this outside
    | cons d z =>
      cases hending
      exact ⟨z, hz⟩
  · exact absurd (hending ▸ List.mem_append_right _ List.mem_cons_self) outside

theorem exists_content {t : Text} (h : isBlank t = false) :
    ∃ blanks c after, t = blanks ++ c :: after ∧ isBlank blanks = true ∧
      LineGrammar.isBlank c = false := by
  induction t with
  | nil => cases h
  | cons c rest ih =>
    cases hc : LineGrammar.isBlank c with
    | false => exact ⟨[], c, rest, rfl, rfl, hc⟩
    | true =>
      rw [isBlank_cons, hc, Bool.true_and] at h
      obtain ⟨blanks, d, after, rfl, hblanks, hd⟩ := ih h
      exact ⟨c :: blanks, d, after, rfl, by rw [isBlank_cons, hc, hblanks]; rfl, hd⟩

/-! ### The first line with content -/

/-- Blanks in front of a text: as many blank pieces as there are line feeds among them, and what
follows the last of these goes to the front of the first piece. -/
theorem segments_blanks_append {blanks : Text} (hblanks : isBlank blanks = true) {t piece : Text}
    {pieces : List Text} (ht : segments t = piece :: pieces) :
    ∃ front x, segments (blanks ++ t) = front ++ (x ++ piece) :: pieces ∧
      front.length = blanks.count '\n' ∧ (∀ other ∈ front, isBlank other = true) ∧
      isBlank x = true := by
  -- A blank that is a line feed is a piece of its own in front of the others; any other goes to the
  -- first of them, which may be that of the text.
  induction blanks with
  | nil => exact ⟨[], [], ht, rfl, nofun, rfl⟩
  | cons b blanks ih =>
    obtain ⟨hb, hrest⟩ := Bool.and_eq_true_iff.mp hblanks
    obtain ⟨front, x, hs, hlength, hfront, hx⟩ := ih hrest
    by_cases hfeed : b = '\n'
    · subst hfeed
      refine ⟨['\n'] :: front, x, ?_, ?_, ?_, hx⟩
      · rw [List.cons_append, segments_feed, hs]
        rfl
      · rw [List.length_cons, List.count_cons_self, hlength]
      · intro other hother
        rcases List.mem_cons.mp hother with rfl | hother
        · rfl
        · exact hfront other hother
    · rw [List.count_cons_of_ne hfeed, ← hlength]
      cases front with
      | nil =>
        refine ⟨[], b :: x, segments_cons hfeed hs, rfl, nofun, ?_⟩
        exact Bool.and_eq_true_iff.mpr ⟨hb, hx⟩
      | cons first front =>
        refine ⟨(b :: first) :: front, x, segments_cons hfeed hs, rfl, ?_, hx⟩
        intro other hother
        rcases List.mem_cons.mp hother with rfl | hother
        · exact Bool.and_eq_true_iff.mpr ⟨hb, hfront first List.mem_cons_self⟩
        · exact hfront other (List.mem_cons_of_mem _ hother)

/-- Characters that end no line stand at the front of the first piece. -/
theorem segments_append {u : Text} (hu : u ≠ []) (inside : '\n' ∉ u) (t : Text) :
    ∃ y back, segments (u ++ t) = (u ++ y) :: back ∧ t = y ++ back.flatten := by
  have cut : ∃ y back, segments (u ++ t) = (u ++ y) :: back := by
    induction u with
    | nil => exact absurd rfl hu
    | cons c u ih =>
      have hne : c ≠ '\n' := fun h => inside (h ▸ List.mem_cons_self)
      cases u with
      | nil =>
        cases hs : segments t with
        | nil =>
          rw [segments_eq_nil_iff.mp hs]
          exact ⟨[], [], segments_singleton⟩
        | cons piece pieces => exact ⟨piece, pieces, segments_cons hne hs⟩
      | cons d u =>
        obtain ⟨y, back, hs⟩ := ih (List.cons_ne_nil d u) fun h => inside (List.mem_cons_of_mem c h)
        exact ⟨y, back, segments_cons hne hs⟩
  obtain ⟨y, back, hs⟩ := cut
  refine ⟨y, back, hs, ?_⟩
  have whole := flatten_segments (u ++ t)
  rw [hs, List.flatten_cons, List.append_assoc] at whole
  exact (List.append_cancel_left whole).symm

/-- The pieces around the first character that is not blank: as many blank pieces in front as there
are line feeds in front of it, and on its own piece nothing but blanks in front of it. -/
theorem segments_around_content {blanks : Text} (hblanks : isBlank blanks = true) {c : Char}
    (hc : LineGrammar.isBlank c = false) (after : Text) :
    ∃ front x y back, segments (blanks ++ c :: after) = front ++ (x ++ c :: y) :: back ∧
      front.length = blanks.count '\n' ∧ (∀ piece ∈ front, isBlank piece = true) ∧
      isBlank x = true := by
  have inside : '\n' ∉ [c] := fun h => by
    rw [← List.mem_singleton.mp h] at hc
    cases hc
  obtain ⟨y, back, hs, -⟩ := segments_append (List.cons_ne_nil c []) inside after
  obtain ⟨front, x, hs, hlength, hfront, hx⟩ := segments_blanks_append hblanks hs
  exact ⟨front, x, y, back, hs, hlength, hfront, hx⟩

/-- The same for lines. -/
theorem lines_around_content {blanks : Text} (hblanks : isBlank blanks = true) {c : Char}
    (hc : LineGrammar.isBlank c = false) (after : Text) :
    ∃ front x y back, lines (blanks ++ c :: after) = front ++ (x ++ c :: y) :: back ∧
      front.length = blanks.count '\n' ∧ (∀ line ∈ front, isBlank line = true) ∧
      isBlank x = true := by
  obtain ⟨front, x, y, back, hs, hlength, hfront, hx⟩ := segments_around_content hblanks hc after
  obtain ⟨z, hz⟩ := withoutEnding_content x y hc
  refine ⟨front.map withoutEnding, x, z, back.map withoutEnding, ?_, ?_, ?_, hx⟩
  · rw [lines, hs, List.map_append, List.map_cons, hz]
  · rw [List.length_map, hlength]
  · exact fun line hline => isBlank_of_mem_withoutEnding hfront hline

theorem firstContentLine_of_content {blanks : Text} (hblanks : isBlank blanks = true) {c : Char}
    (hc : LineGrammar.isBlank c = false) (after : Text) :
    firstContentLine (blanks ++ c :: after) = blanks.count '\n' + 1 := by
  obtain ⟨front, x, y, back, hlines, hlength, hfront, hx⟩ := lines_around_content hblanks hc after
  have none : front.findIdx? (fun line => !isBlank line) = none :=
    List.findIdx?_eq_none_iff.mpr fun line hline => by rw [hfront line hline]; rfl
  have content : isBlank (x ++ c :: y) = false := by
    rw [isBlank_append, isBlank_cons, hc, Bool.false_and, Bool.and_false]
  rw [firstContentLine, hlines, List.findIdx?_append, none, List.findIdx?_cons, content, ← hlength]
  simp

/-- A block of blanks stands for its first line. -/
theorem firstContentLine_of_isBlank {t : Text} (h : isBlank t = true) : firstContentLine t = 1 := by
  have none : t.lines.findIdx? (fun line => !isBlank line) = none := by
    refine List.findIdx?_eq_none_iff.mpr fun line hline => ?_
    have pieces : ∀ piece ∈ t.segments, isBlank piece = true := fun piece hpiece =>
      isBlank_of_mem_pieces (by rwa [flatten_segments]) hpiece
    rw [isBlank_of_mem_withoutEnding pieces hline]
    rfl
  rw [firstContentLine, none]

theorem firstContentLine_le (t : Text) : firstContentLine t ≤ t.count '\n' + 1 := by
  cases h : isBlank t with
  | true =>
    rw [firstContentLine_of_isBlank h]
    exact Nat.le_add_left 1 _
  | false =>
    obtain ⟨blanks, c, after, rfl, hblanks, hc⟩ := exists_content h
    rw [firstContentLine_of_content hblanks hc, List.count_append]
    exact Nat.add_le_add_right (Nat.le_add_right _ _) 1

/-! ### Numbers along the lines -/

theorem numberedFrom_append (first : Nat) (xs ys : List Text) :
    numberedFrom first (xs ++ ys) =
      numberedFrom first xs ++ numberedFrom (first + xs.length) ys := by
  induction xs generalizing first with
  | nil => rfl
  | cons line rest ih =>
    rw [List.cons_append, numberedFrom, numberedFrom, ih, List.cons_append, List.length_cons,
      Nat.add_assoc, Nat.add_comm 1]

theorem bounds_of_mem_numberedFrom {first : Nat} {lines : List Text} {line : Nat × Text}
    (h : line ∈ numberedFrom first lines) :
    first ≤ line.1 ∧ line.1 < first + lines.length := by
  induction lines generalizing first with
  | nil => cases h
  | cons text rest ih =>
    rw [List.length_cons]
    rcases List.mem_cons.mp h with rfl | h
    · exact ⟨Nat.le_refl _, Nat.lt_add_of_pos_right (Nat.succ_pos _)⟩
    · have := ih h
      omega

/-- The numbers go up. -/
theorem pairwise_numberedFrom (first : Nat) (lines : List Text) :
    (numberedFrom first lines).Pairwise fun x y => x.1 < y.1 := by
  induction lines generalizing first with
  | nil => exact .nil
  | cons line rest ih =>
    exact .cons (fun other h => (bounds_of_mem_numberedFrom h).1) (ih (first + 1))

/-- To leave out the lines in front is to number what is left from where it begins. -/
theorem filter_numberedFrom (first : Nat) (xs ys : List Text) (keep : Nat × Text → Bool) :
    (numberedFrom first (xs ++ ys)).filter (fun line => first + xs.length ≤ line.1 && keep line) =
      (numberedFrom (first + xs.length) ys).filter keep := by
  rw [numberedFrom_append, List.filter_append]
  have front : (numberedFrom first xs).filter
      (fun line => first + xs.length ≤ line.1 && keep line) = [] := by
    refine List.filter_eq_nil_iff.mpr fun line h => ?_
    have := (bounds_of_mem_numberedFrom h).2
    simp [Nat.not_le.mpr this]
  have back : (numberedFrom (first + xs.length) ys).filter
      (fun line => first + xs.length ≤ line.1 && keep line) =
        (numberedFrom (first + xs.length) ys).filter keep := by
    refine List.filter_congr fun line h => ?_
    rw [decide_eq_true (bounds_of_mem_numberedFrom h).1, Bool.true_and]
  rw [front, back, List.nil_append]

/-! ### Cutting at a mark -/

theorem eq_of_cutAt {t mark before after : Text} (h : t.cutAt mark = some (before, after)) :
    t = before ++ mark ++ after := by
  induction t generalizing before with
  | nil =>
    rw [cutAt] at h
    split at h
    · next hmark =>
      cases h
      rw [List.isEmpty_iff.mp hmark]
      rfl
    · cases h
  | cons c rest ih =>
    rw [cutAt] at h
    split at h
    · next hmark =>
      cases h
      exact (List.prefix_iff_eq_append.mp (List.isPrefixOf_iff_prefix.mp hmark)).symm
    · split at h
      · next front back hcut =>
        cases h
        rw [List.cons_append, List.cons_append, ← ih hcut]
      · cases h

end Text

namespace Sections

/-- Sections are cut apart at two line endings of one kind. -/
theorem eq_of_split {t : Text} {s : Sections} (h : split t = some s) :
    (∃ ending, Text.LineEnding ending ∧ t = s.directions ++ (ending ++ ending) ++ s.nodes) ∧
      s.firstNodeLine = s.directions.count '\n' + 3 := by
  rw [split] at h
  split at h
  · next cut hcut =>
    cases h
    exact ⟨⟨_, .feed, Text.eq_of_cutAt hcut⟩, rfl⟩
  · obtain ⟨cut, hcut, rfl⟩ := Option.map_eq_some_iff.mp h
    exact ⟨⟨_, .returnFeed, Text.eq_of_cutAt hcut⟩, rfl⟩

/-- The lines of the whole text are those of the directions with one ending, the blank line, and
those of the nodes, which begin on the first node line. -/
theorem lines_of_eq_split {t : Text} {s : Sections} (h : split t = some s) :
    ∃ ending, Text.LineEnding ending ∧
      t.lines = Text.lines (s.directions ++ ending) ++ [[]] ++ s.nodes.lines ∧
      1 + (Text.lines (s.directions ++ ending) ++ [[]]).length = s.firstNodeLine := by
  obtain ⟨⟨ending, hending, htext⟩, hfirst⟩ := eq_of_split h
  refine ⟨ending, hending, ?_, ?_⟩
  · calc t.lines
        = Text.lines (s.directions ++ ending ++ (ending ++ s.nodes)) := by
          rw [htext, ← List.append_assoc, ← List.append_assoc, List.append_assoc _ ending]
      _ = Text.lines (s.directions ++ ending) ++ [] :: s.nodes.lines := by
          rw [Text.lines_append_ending hending, Text.lines_ending_append hending]
      _ = Text.lines (s.directions ++ ending) ++ [[]] ++ s.nodes.lines := by
          rw [List.append_assoc]
          rfl
  · rw [List.length_append, Text.length_lines_ending hending, hfirst, List.length_singleton]
    omega

/-- The lines of the nodes are the lines of the whole text from the first node line on. -/
theorem lines_of_split {t : Text} {s : Sections} (h : split t = some s) :
    ∃ front, t.lines = front ++ s.nodes.lines ∧ 1 + front.length = s.firstNodeLine := by
  obtain ⟨ending, -, hlines, hfirst⟩ := lines_of_eq_split h
  exact ⟨_, hlines, hfirst⟩

end Sections

end LineGrammar
