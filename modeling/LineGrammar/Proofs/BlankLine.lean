import LineGrammar.Proofs.Lines
import Mathlib.Data.List.Chain

/-!
Where a network is cut, said by its lines. A text that is written line by line, each line with an
ending of its own, has its sections cut at a blank line: the nodes begin behind it. The cut is
looked for as two endings of one kind in a row, first two feeds and then, in the whole text again,
two pairs of a return and a feed. So the first blank line is where the text is cut if the endings
are of one kind, but not always if they are mixed.

* `WrittenLine.cutAt_join_append`, `WrittenLine.cutAt_join_gap`: a search for two endings of one
  kind passes over the lines and stops at a gap.
* `Sections.cut_at_first_blank_line_iff`: where the first blank line is, and when it is the cut.
* `Sections.not_always_cut_at_first_blank_line`: a blank line with another ending than the line in
  front of it is passed over.
-/

namespace LineGrammar

/-! ### Cutting at a mark -/

namespace Text

variable {mark rest : Text}

theorem cutAt_cons_of_not_prefix {c : Char} (h : ¬mark <+: c :: rest) :
    cutAt (c :: rest) mark = (cutAt rest mark).map fun cut => (c :: cut.1, cut.2) := by
  rw [cutAt, if_neg fun hmark => h (List.isPrefixOf_iff_prefix.mp hmark)]
  cases cutAt rest mark <;> rfl

/-- What holds no beginning of the mark is passed over. -/
theorem cutAt_append {x : Text} (h : ∀ y, y ≠ [] → y <:+ x → ¬mark <+: y ++ rest) :
    cutAt (x ++ rest) mark = (cutAt rest mark).map fun cut => (x ++ cut.1, cut.2) := by
  induction x with
  | nil => exact (congrFun Option.map_id _).symm
  | cons c x ih =>
    have later := ih fun y hne hy => h y hne (hy.trans (List.suffix_cons c x))
    have here : ¬mark <+: c :: (x ++ rest) := h (c :: x) (List.cons_ne_nil c x) List.suffix_rfl
    rw [List.cons_append, cutAt_cons_of_not_prefix here, later, Option.map_map]
    rfl

theorem cutAt_mark (hmark : mark ≠ []) (rest : Text) :
    cutAt (mark ++ rest) mark = some ([], rest) := by
  obtain ⟨m, more, rfl⟩ := List.exists_cons_of_ne_nil hmark
  have here : (m :: more).isPrefixOf (m :: (more ++ rest)) = true :=
    List.isPrefixOf_iff_prefix.mpr (List.prefix_append (m :: more) rest)
  rw [List.cons_append, cutAt, if_pos here, ← List.cons_append, List.drop_left]

end Text

/-! ### Written lines -/

/-- How a line ends. -/
inductive Terminator where
  | feed
  | returnFeed
  deriving DecidableEq

/-- The characters of an ending. -/
def Terminator.text : Terminator → Text
  | feed => ['\n']
  | returnFeed => ['\r', '\n']

namespace Terminator

theorem count_text (e : Terminator) : e.text.count '\n' = 1 := by cases e <;> rfl

/-- Every ending closes with a feed. -/
theorem feed_suffix (e : Terminator) : feed.text <:+ e.text := by
  cases e with
  | feed => exact List.suffix_rfl
  | returnFeed => exact List.suffix_cons '\r' ['\n']

/-- What ends an ending is an ending. -/
theorem exists_eq_text_of_suffix {e : Terminator} {y : Text} (hne : y ≠ []) (h : y <:+ e.text) :
    ∃ e' : Terminator, y = e'.text := by
  cases e with
  | feed =>
    rcases List.suffix_cons_iff.mp h with rfl | h
    · exact ⟨feed, rfl⟩
    · exact absurd (List.suffix_nil.mp h) hne
  | returnFeed =>
    rcases List.suffix_cons_iff.mp h with rfl | h
    · exact ⟨returnFeed, rfl⟩
    · rcases List.suffix_cons_iff.mp h with rfl | h
      · exact ⟨feed, rfl⟩
      · exact absurd (List.suffix_nil.mp h) hne

/-- The first character tells an ending. -/
theorem eq_of_prefix {e e' : Terminator} {rest : Text} (h : e.text <+: e'.text ++ rest) : e = e' := by
  cases e with
  | feed =>
    cases e' with
    | feed => rfl
    | returnFeed => cases (List.cons_prefix_cons.mp h).1
  | returnFeed =>
    cases e' with
    | feed => cases (List.cons_prefix_cons.mp h).1
    | returnFeed => rfl

end Terminator

/-- A line with the ending that it is written with. Nothing in it could end a line. -/
structure WrittenLine where
  text : Text
  ending : Terminator
  no_return : '\r' ∉ text
  no_feed : '\n' ∉ text

namespace WrittenLine

/-- The characters of a line and its ending. -/
def written (l : WrittenLine) : Text := l.text ++ l.ending.text

/-- The text of lines in a row. -/
def join (ls : List WrittenLine) : Text := ls.flatMap written

/-- A blank line that ends as `e` says, behind a line whose ending closes with the same
characters. -/
structure Gap (e : Terminator) (previous blank : WrittenLine) : Prop where
  closes : e.text <:+ previous.ending.text
  text_eq : blank.text = []
  ending_eq : blank.ending = e

/-- No line in a row is a gap behind the one in front of it. -/
def GapFree (e : Terminator) (ls : List WrittenLine) : Prop := ls.IsChain fun a b => ¬Gap e a b

theorem join_cons (l : WrittenLine) (ls : List WrittenLine) : join (l :: ls) = l.written ++ join ls :=
  rfl

theorem join_append (xs ys : List WrittenLine) : join (xs ++ ys) = join xs ++ join ys :=
  List.flatMap_append

theorem count_written (l : WrittenLine) : l.written.count '\n' = 1 := by
  rw [written, List.count_append, List.count_eq_zero.mpr l.no_feed, l.ending.count_text]

theorem count_join (ls : List WrittenLine) : (join ls).count '\n' = ls.length := by
  induction ls with
  | nil => rfl
  | cons l rest ih =>
    rw [join_cons, List.count_append, count_written, ih, List.length_cons, Nat.add_comm]

/-! ### One search over written lines -/

variable {e : Terminator} {l : WrittenLine}

/-- The characters of an ending are found in a line at its end only. -/
theorem eq_text_of_suffix_written {y rest : Text} (hne : y ≠ []) (hy : y <:+ l.written)
    (h : e.text <+: y ++ rest) : y = e.text ∧ e.text <:+ l.ending.text := by
  obtain ⟨c, y, rfl⟩ := List.exists_cons_of_ne_nil hne
  have outside : c ∉ l.text := by
    cases e with
    | feed =>
      obtain ⟨rfl, -⟩ := List.cons_prefix_cons.mp h
      exact l.no_feed
    | returnFeed =>
      obtain ⟨rfl, -⟩ := List.cons_prefix_cons.mp h
      exact l.no_return
  have inside : c :: y <:+ l.ending.text := by
    obtain ⟨x, hx⟩ := hy
    rcases List.append_eq_append_iff.mp hx with ⟨z, htext, hending⟩ | ⟨z, -, hending⟩
    · cases z with
      | nil => exact ⟨[], hending⟩
      | cons d z =>
        obtain ⟨rfl, -⟩ := List.cons.inj hending
        exact absurd (htext ▸ List.mem_append_right x List.mem_cons_self) outside
    · exact ⟨z, hending.symm⟩
  obtain ⟨e', hy'⟩ := Terminator.exists_eq_text_of_suffix hne inside
  rw [hy'] at h inside
  obtain rfl := Terminator.eq_of_prefix h
  exact ⟨hy', inside⟩

/-- Lines in a row begin with an ending where the first of them is blank and ends so. -/
theorem eq_of_prefix_join {ls : List WrittenLine} (h : e.text <+: join ls) :
    ∃ blank later, ls = blank :: later ∧ blank.text = [] ∧ blank.ending = e := by
  cases ls with
  | nil => cases e <;> cases List.prefix_nil.mp h
  | cons blank later =>
    have hne : blank.written ≠ [] := fun none => by
      have := count_written blank
      rw [none] at this
      cases this
    obtain ⟨whole, w, hw⟩ := eq_text_of_suffix_written hne List.suffix_rfl h
    rw [written, ← hw, ← List.append_assoc, List.append_left_eq_self] at whole
    obtain ⟨htext, rfl⟩ := List.append_eq_nil_iff.mp whole
    have same : e.text <+: blank.ending.text ++ [] := by
      rw [← hw]
      exact List.prefix_append _ _
    exact ⟨blank, later, rfl, htext, (Terminator.eq_of_prefix same).symm⟩

/-- A search for two endings passes over a line that is in front of no gap. -/
theorem cutAt_written {rest : Text} (h : e.text <:+ l.ending.text → ¬e.text <+: rest) :
    (l.written ++ rest).cutAt (e.text ++ e.text) =
      (rest.cutAt (e.text ++ e.text)).map fun cut => (l.written ++ cut.1, cut.2) := by
  refine Text.cutAt_append fun y hne hy hmark => ?_
  obtain ⟨rfl, closes⟩ := eq_text_of_suffix_written hne hy ((List.prefix_append _ _).trans hmark)
  exact h closes ((List.prefix_append_right_inj _).mp hmark)

/-- It stops at a gap, with the nodes behind it. -/
theorem cutAt_gap {previous blank : WrittenLine} (h : Gap e previous blank) (rest : Text) :
    ∃ front, (previous.written ++ (blank.written ++ rest)).cutAt (e.text ++ e.text) =
      some (front, rest) ∧ front ++ e.text = previous.written := by
  obtain ⟨w, hw⟩ := h.closes
  have hprevious : previous.text ++ w ++ e.text = previous.written := by
    rw [List.append_assoc, hw, written]
  have hblank : blank.written = e.text := by rw [written, h.text_eq, h.ending_eq, List.nil_append]
  have hmark : e.text ++ e.text ≠ [] := by cases e <;> exact List.cons_ne_nil _ _
  have passed : Text.cutAt (previous.text ++ w ++ (e.text ++ e.text ++ rest)) (e.text ++ e.text) =
      (Text.cutAt (e.text ++ e.text ++ rest) (e.text ++ e.text)).map
        fun cut => (previous.text ++ w ++ cut.1, cut.2) := by
    refine Text.cutAt_append fun y hne hy hmark => ?_
    have inside : y ++ e.text <:+ previous.written := by
      obtain ⟨x, hx⟩ := hy
      exact ⟨x, by rw [← List.append_assoc, hx, hprevious]⟩
    have begins : e.text <+: y ++ e.text ++ (e.text ++ rest) := by
      rw [List.append_assoc y, ← List.append_assoc e.text]
      exact (List.prefix_append _ _).trans hmark
    obtain ⟨same, -⟩ := eq_text_of_suffix_written
      (List.append_ne_nil_of_left_ne_nil hne _) inside begins
    exact hne (List.append_left_eq_self.mp same)
  refine ⟨previous.text ++ w, ?_, hprevious⟩
  rw [← hprevious, hblank, List.append_assoc, ← List.append_assoc e.text, passed,
    Text.cutAt_mark hmark, Option.map_some, List.append_nil]

/-! ### Lines without a gap -/

/-- Lines that are not blank are no gaps. -/
theorem gapFree_of_content {first : WrittenLine} {ls : List WrittenLine}
    (h : ∀ l ∈ ls, l.text ≠ []) : GapFree e (first :: ls) := by
  induction ls generalizing first with
  | nil => exact .singleton first
  | cons next ls ih =>
    refine .cons_cons (fun gap => h next List.mem_cons_self gap.text_eq) (ih fun l hl => ?_)
    exact h l (List.mem_cons_of_mem next hl)

/-- Every line closes with a feed, so any blank line that ends in a feed alone makes a gap. -/
theorem gapFree_feed_iff {first : WrittenLine} {ls : List WrittenLine} :
    GapFree .feed (first :: ls) ↔ ∀ l ∈ ls, l.text = [] → l.ending = .returnFeed := by
  induction ls generalizing first with
  | nil => exact ⟨fun _ => nofun, fun _ => .singleton first⟩
  | cons next ls ih =>
    have here : ¬Gap .feed first next ↔ (next.text = [] → next.ending = .returnFeed) := by
      constructor
      · intro none htext
        cases hnext : next.ending with
        | feed => exact absurd ⟨first.ending.feed_suffix, htext, hnext⟩ none
        | returnFeed => rfl
      · intro returns gap
        cases gap.ending_eq.symm.trans (returns gap.text_eq)
    rw [GapFree, List.isChain_cons_cons, List.forall_mem_cons, here]
    exact and_congr_right' ih

/-- A search for two endings passes over lines without a gap, up to the line behind them. -/
theorem cutAt_join_append {front rest : List WrittenLine} (h : GapFree e (front ++ rest.take 1)) :
    (join (front ++ rest)).cutAt (e.text ++ e.text) =
      ((join rest).cutAt (e.text ++ e.text)).map fun cut => (join front ++ cut.1, cut.2) := by
  induction front with
  | nil => exact (congrFun Option.map_id _).symm
  | cons l front ih =>
    obtain ⟨here, later⟩ := List.isChain_cons.mp h
    have passes : e.text <:+ l.ending.text → ¬e.text <+: join (front ++ rest) := by
      intro closes begins
      obtain ⟨blank, others, hls, htext, hending⟩ := eq_of_prefix_join begins
      have head : blank ∈ (front ++ rest.take 1).head? := by
        cases front with
        | nil => rw [List.nil_append, show rest = blank :: others from hls]; rfl
        | cons first front => exact congrArg List.head? hls
      exact here blank head ⟨closes, htext, hending⟩
    rw [List.cons_append, join_cons, cutAt_written passes, ih later, Option.map_map]
    congr 1
    funext cut
    rw [Function.comp_apply, ← List.append_assoc, join_cons]

theorem cutAt_join_eq_none {ls : List WrittenLine} (h : GapFree e ls) :
    (join ls).cutAt (e.text ++ e.text) = none := by
  have passed : (join (ls ++ [])).cutAt (e.text ++ e.text) =
      ((join []).cutAt (e.text ++ e.text)).map fun cut => (join ls ++ cut.1, cut.2) :=
    cutAt_join_append (by rwa [List.take_nil, List.append_nil])
  rw [List.append_nil] at passed
  rw [passed]
  cases e <;> rfl

/-- The cut at the first gap. -/
theorem cutAt_join_gap {before : List WrittenLine} {previous blank : WrittenLine}
    (h : GapFree e (before ++ [previous])) (gap : Gap e previous blank)
    (later : List WrittenLine) :
    ∃ front, (join (before ++ previous :: blank :: later)).cutAt (e.text ++ e.text) =
      some (front, join later) ∧ front ++ e.text = join (before ++ [previous]) := by
  obtain ⟨front, hcut, hfront⟩ := cutAt_gap gap (join later)
  refine ⟨join before ++ front, ?_, ?_⟩
  · rw [cutAt_join_append h, join_cons, join_cons, hcut, Option.map_some]
  · rw [List.append_assoc, hfront, join_append]
    exact congrArg (join before ++ ·) (List.append_nil _).symm

/-- Lines have a first gap or none at all. -/
theorem gapFree_or_exists_gap (e : Terminator) (ls : List WrittenLine) :
    GapFree e ls ∨ ∃ before previous blank later, ls = before ++ previous :: blank :: later ∧
      GapFree e (before ++ [previous]) ∧ Gap e previous blank := by
  induction ls with
  | nil => exact .inl .nil
  | cons l ls ih =>
    cases ls with
    | nil => exact .inl (.singleton l)
    | cons next ls =>
      by_cases gap : Gap e l next
      · exact .inr ⟨[], l, next, ls, rfl, .singleton l, gap⟩
      · rcases ih with free | ⟨before, previous, blank, later, hls, free, hgap⟩
        · exact .inl (.cons_cons gap free)
        · refine .inr ⟨l :: before, previous, blank, later, by rw [hls]; rfl, ?_, hgap⟩
          -- The line behind `l` is the first one in front of the gap.
          cases before with
          | nil =>
            obtain ⟨rfl, -⟩ := List.cons.inj hls
            exact .cons_cons gap free
          | cons first before =>
            obtain ⟨rfl, -⟩ := List.cons.inj hls
            exact .cons_cons gap free

/-- Where a search finds nothing there is no gap. -/
theorem gapFree_of_cutAt_eq_none {ls : List WrittenLine}
    (h : (join ls).cutAt (e.text ++ e.text) = none) : GapFree e ls := by
  rcases gapFree_or_exists_gap e ls with free | ⟨before, previous, blank, later, rfl, free, gap⟩
  · exact free
  · obtain ⟨front, hcut, -⟩ := cutAt_join_gap free gap later
    rw [hcut] at h
    cases h

/-- A cut leaves the lines that a search has passed over in front of it. -/
theorem length_le_of_cutAt {front rest : List WrittenLine} {cut : Text × Text}
    (h : (join (front ++ rest)).cutAt (e.text ++ e.text) = some cut)
    (free : GapFree e (front ++ rest.take 1)) :
    front.length ≤ cut.1.count '\n' := by
  rw [cutAt_join_append free] at h
  obtain ⟨later, -, rfl⟩ := Option.map_eq_some_iff.mp h
  rw [List.count_append, count_join]
  exact Nat.le_add_right _ _

end WrittenLine

/-! ### Both searches -/

namespace Sections

open WrittenLine

variable {t : Text} {cut : Text × Text}

theorem split_of_feeds (h : t.cutAt (Terminator.feed.text ++ Terminator.feed.text) = some cut) :
    split t = some (ofCut cut) := by
  have h' : t.cutAt "\n\n".toList = some cut := h
  rw [split, h']

theorem split_of_no_feeds (h : t.cutAt (Terminator.feed.text ++ Terminator.feed.text) = none) :
    split t = (t.cutAt (Terminator.returnFeed.text ++ Terminator.returnFeed.text)).map ofCut := by
  have h' : t.cutAt "\n\n".toList = none := h
  rw [split, h']
  rfl

/-- A cut is found by one of the searches. -/
theorem exists_cutAt_of_split {s : Sections} (h : split t = some s) :
    ∃ (e : Terminator) (cut : Text × Text), t.cutAt (e.text ++ e.text) = some cut ∧ s = ofCut cut := by
  cases hfeed : t.cutAt (Terminator.feed.text ++ Terminator.feed.text) with
  | some cut =>
    rw [split_of_feeds hfeed] at h
    exact ⟨.feed, cut, hfeed, (Option.some.inj h).symm⟩
  | none =>
    rw [split_of_no_feeds hfeed] at h
    obtain ⟨cut, hcut, rfl⟩ := Option.map_eq_some_iff.mp h
    exact ⟨.returnFeed, cut, hcut, rfl⟩

variable {before later front rest : List WrittenLine} {previous blank : WrittenLine}

/-- Nothing is cut in front of the first gap. -/
theorem length_le_of_split {s : Sections} (free : ∀ e, GapFree e (front ++ rest.take 1))
    (h : split (join (front ++ rest)) = some s) : front.length + 3 ≤ s.firstNodeLine := by
  obtain ⟨e, cut, hcut, rfl⟩ := exists_cutAt_of_split h
  exact Nat.add_le_add_right (length_le_of_cutAt hcut (free e)) 3

/-- The first gap of one kind is the cut; one of the second kind if there is no gap of the
first. -/
theorem exists_split_at_gap {e : Terminator} (free : GapFree e (before ++ [previous]))
    (gap : Gap e previous blank)
    (first : e = .returnFeed → GapFree .feed (before ++ previous :: blank :: later)) :
    ∃ s, split (join (before ++ previous :: blank :: later)) = some s ∧ s.nodes = join later ∧
      s.firstNodeLine = before.length + 3 := by
  obtain ⟨directions, hcut, hdirections⟩ := cutAt_join_gap free gap later
  have count : directions.count '\n' = before.length := by
    have := congrArg (List.count '\n') hdirections
    rw [List.count_append, e.count_text, count_join, List.length_append] at this
    exact Nat.add_right_cancel this
  refine ⟨ofCut (directions, join later), ?_, rfl, congrArg (· + 3) count⟩
  cases e with
  | feed => exact split_of_feeds hcut
  | returnFeed =>
    rw [split_of_no_feeds (cutAt_join_eq_none (first rfl)), hcut]
    rfl

/-- A search passes over a line that makes no gap, as it has passed over those in front. -/
theorem gapFree_append_blank {e : Terminator} (free : GapFree e (before ++ [previous]))
    (miss : ¬Gap e previous blank) (behind : GapFree e (blank :: rest)) :
    GapFree e (before ++ [previous] ++ blank :: rest) := by
  refine free.append behind fun l hl next hnext => ?_
  rw [List.getLast?_concat] at hl
  cases hl
  cases hnext
  exact miss

/-- A blank line that ends in a return and a feed is the cut only where the line in front of it and
all blank lines behind it end so too: otherwise a search passes over it, and leaves more lines in
front of the nodes. -/
theorem returns_of_split_at_blank {s : Sections} (free : ∀ e, GapFree e (before ++ [previous]))
    (hend : blank.ending = .returnFeed)
    (h : split (join (before ++ [previous] ++ blank :: later)) = some s)
    (hnumber : s.firstNodeLine = before.length + 3) :
    previous.ending = .returnFeed ∧ ∀ l ∈ later, l.text = [] → l.ending = .returnFeed := by
  have further : ¬(before ++ [previous]).length + 3 ≤ s.firstNodeLine := by
    rw [hnumber, List.length_append, List.length_singleton]
    omega
  have missFeed : ¬Gap .feed previous blank := fun gap => by
    cases gap.ending_eq.symm.trans hend
  constructor
  · cases hprevious : previous.ending with
    | returnFeed => rfl
    | feed =>
      have miss (e : Terminator) : ¬Gap e previous blank := by
        cases e with
        | feed => exact missFeed
        | returnFeed =>
          intro gap
          have closes := gap.closes.length_le
          rw [hprevious] at closes
          exact absurd closes (by decide)
      have passed (e : Terminator) := gapFree_append_blank (free e) (miss e) (.singleton blank)
      exact absurd (length_le_of_split passed h) further
  · cases hcut : (join (before ++ [previous] ++ blank :: later)).cutAt
        (Terminator.feed.text ++ Terminator.feed.text) with
    | none => exact gapFree_feed_iff.mp (gapFree_of_cutAt_eq_none hcut).right_of_append
    | some cut =>
      rw [split_of_feeds hcut] at h
      cases h
      have passed := gapFree_append_blank (free .feed) missFeed (.singleton blank)
      have front := length_le_of_cutAt hcut passed
      exact absurd (Nat.add_le_add_right front 3) further

/-- **Where the first blank line is, and when it is the cut.** Without a blank line from the second
line on there are no sections. If there is one, the nodes begin behind the first of them, under its
number and one, exactly when it ends in a feed alone, or when the line in front of it ends in a
return and a feed and so do all blank lines from there on. Nothing is ever cut in front of it. -/
theorem cut_at_first_blank_line_iff (ls : List WrittenLine) :
    ((∀ l ∈ ls.tail, l.text ≠ []) → split (join ls) = none) ∧
    ∀ before previous blank later, ls = before ++ previous :: blank :: later →
      (∀ l ∈ (before ++ [previous]).tail, l.text ≠ []) → blank.text = [] →
      ((∃ s, split (join ls) = some s ∧ s.nodes = join later ∧
          s.firstNodeLine = before.length + 3) ↔
        blank.ending = .feed ∨
          previous.ending = .returnFeed ∧ ∀ l ∈ later, l.text = [] → l.ending = .returnFeed) ∧
      ∀ s, split (join ls) = some s → before.length + 3 ≤ s.firstNodeLine := by
  refine ⟨fun content => ?_, ?_⟩
  · have free (e : Terminator) : GapFree e ls := by
      cases ls with
      | nil => exact .nil
      | cons first ls => exact gapFree_of_content content
    rw [split_of_no_feeds (cutAt_join_eq_none (free .feed)), cutAt_join_eq_none (free .returnFeed)]
    rfl
  · rintro before previous blank later rfl content hblank
    have free (e : Terminator) : GapFree e (before ++ [previous]) := by
      cases before with
      | nil => exact .singleton previous
      | cons first before => exact gapFree_of_content content
    have whole : before ++ previous :: blank :: later = before ++ [previous] ++ blank :: later := by
      rw [List.append_assoc, List.singleton_append]
    refine ⟨⟨?_, ?_⟩, fun s => length_le_of_split free⟩
    · rintro ⟨s, hs, -, hnumber⟩
      cases hend : blank.ending with
      | feed => exact .inl rfl
      | returnFeed => exact .inr (returns_of_split_at_blank free hend (whole ▸ hs) hnumber)
    · intro found
      cases hend : blank.ending with
      | feed => exact exists_split_at_gap (free _) ⟨previous.ending.feed_suffix, hblank, hend⟩ nofun
      | returnFeed =>
        rcases found with hfeed | ⟨hprevious, hlater⟩
        · cases hend.symm.trans hfeed
        · have closes : Terminator.returnFeed.text <:+ previous.ending.text :=
            hprevious ▸ List.suffix_rfl
          have missFeed : ¬Gap .feed previous blank := fun gap => by
            cases gap.ending_eq.symm.trans hend
          refine exists_split_at_gap (free _) ⟨closes, hblank, hend⟩ fun _ => ?_
          rw [whole]
          exact gapFree_append_blank (free _) missFeed (gapFree_feed_iff.mpr hlater)

/-- **The first blank line is not always the cut.** Behind a line that ends in a feed alone, a blank
line that ends in a return and a feed is no cut, here the only blank line. -/
theorem not_always_cut_at_first_blank_line :
    ¬∀ (before later : List WrittenLine) (previous blank : WrittenLine),
      (∀ l ∈ (before ++ [previous]).tail, l.text ≠ []) → blank.text = [] →
      ∃ s, split (join (before ++ previous :: blank :: later)) = some s ∧ s.nodes = join later ∧
        s.firstNodeLine = before.length + 3 := by
  intro always
  obtain ⟨s, hs, -⟩ := always [] [⟨"A = (B, C)".toList, .returnFeed, by decide, by decide⟩]
    ⟨"LR".toList, .feed, by decide, by decide⟩ ⟨[], .returnFeed, by decide, by decide⟩ nofun rfl
  have none : split "LR\n\r\nA = (B, C)\r\n".toList = none := by decide
  cases hs.symm.trans none

end Sections

end LineGrammar
