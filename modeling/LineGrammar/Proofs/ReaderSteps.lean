import LineGrammar.Regex.Build
import LineGrammar.Regex.Reader

/-!
What reading one part of a regular expression does to the alternation that is being read and to the
groups that are open, and what follows for an anchor at the beginning of the text. The outermost
alternation is the one outside of all groups. For as long as no bar is read there it has one branch,
which begins with the anchor; so the expression is anchored as a whole.

* `Regex.change_of_readPart`: what one part changes.
* `Reading.Anchored.step`: a part that is not a bar outside of all groups keeps the anchor.
* `Regex.startsText_of_readFrom`: what the whole reading comes to.
-/

namespace LineGrammar

/-- A computation that succeeds has succeeded at its first step. -/
theorem exists_of_bind_eq_ok {ε α β : Type} {x : Except ε α} {f : α → Except ε β} {b : β}
    (h : x >>= f = .ok b) : ∃ a, x = .ok a ∧ f a = .ok b := by
  cases x with
  | error e => cases h
  | ok a => exact ⟨a, rfl, h⟩

namespace Regex

/-! ### One part -/

/-- What reading a part that begins with a character does to the alternation that is being read and
to the open groups. -/
inductive Reading.Change (s : Reading) (c : Char) (s' : Reading) : Prop where
  /-- An item is added to the branch. -/
  | added (item : Item) (present : s'.present = s.present.push item) (outer : s'.outer = s.outer)
  /-- The latest item is replaced by its repetition. -/
  | repeated (w w' : Written) (items : List Item) (before : s.present.items = .part w :: items)
      (present : s'.present = ⟨s.present.branches, .part w' :: items⟩) (outer : s'.outer = s.outer)
  /-- A bar begins the next branch. -/
  | barred (bar : c = '|') (present : s'.present = s.present.bar) (outer : s'.outer = s.outer)
  /-- A group begins. -/
  | opened (group : OpenGroup) (around : group.around = s.present)
      (outer : s'.outer = group :: s.outer)
  /-- A group ends and is an item of the alternation around it. -/
  | closed (group : OpenGroup) (item : Item) (outer : s.outer = group :: s'.outer)
      (present : s'.present = group.around.push item)

theorem change_of_closeGroup {s s' : Reading} {c : Char} (h : s.closeGroup = .ok s') :
    s.Change c s' := by
  rw [Reading.closeGroup] at h
  split at h
  · cases h
  · next group outer houter =>
    cases h
    exact .closed group _ houter rfl

theorem change_of_repeatLast {s s' : Reading} {c : Char} {least : Nat} {most : Option Nat}
    {greedy : Bool} (h : s.repeatLast least most greedy = .ok s') : s.Change c s' := by
  rw [Reading.repeatLast] at h
  split at h
  · next w items hitems =>
    cases h
    exact .repeated w _ items hitems rfl rfl
  · cases h

/-- A parenthesis begins a group, or flags for the rest of the present one. -/
theorem change_of_readGroup {s s' : Reading} {c : Char} {t left : Text}
    (h : readGroup s t = .ok (s', left)) : s.Change c s' := by
  have named {rest : Text} (h : (readName s.names rest >>= fun read =>
      .ok ({ s with names := read.1 :: s.names }.openCounted, read.2)) = .ok (s', left)) :
      s.Change c s' := by
    obtain ⟨⟨name, rest⟩, -, h⟩ := exists_of_bind_eq_ok h
    cases h
    exact .opened ⟨s.present, s.flags, _⟩ rfl rfl
  rw [readGroup] at h
  split at h
  · cases h
  · cases h
  · cases h
  · cases h
  · exact named h
  · exact named h
  · obtain ⟨⟨inline, rest⟩, -, h⟩ := exists_of_bind_eq_ok h
    dsimp only at h
    split at h
    · cases h
      exact .opened ⟨s.present, s.flags, none⟩ rfl rfl
    · split at h
      · cases h
      · cases h
        exact .added .flags rfl rfl
  · cases h
    exact .opened ⟨s.present, s.flags, _⟩ rfl rfl

/-- A part adds an item, repeats the latest one, begins a branch, or begins or ends a group. -/
theorem change_of_readPart {fuel : Nat} {s s' : Reading} {c : Char} {rest left : Text}
    (h : readPart fuel s c rest = .ok (s', left)) : s.Change c s' := by
  rw [readPart.eq_def] at h
  split at h
  · exact change_of_readGroup h
  · obtain ⟨closed, hclosed, h⟩ := exists_of_bind_eq_ok h
    cases h
    exact change_of_closeGroup hclosed
  · cases h
    exact .barred rfl rfl rfl
  · obtain ⟨⟨written, after⟩, -, h⟩ := exists_of_bind_eq_ok h
    cases h
    exact .added _ rfl rfl
  · obtain ⟨⟨least, most, after⟩, -, h⟩ := exists_of_bind_eq_ok h
    obtain ⟨again, hagain, h⟩ := exists_of_bind_eq_ok h
    cases h
    exact change_of_repeatLast hagain
  · obtain ⟨set, -, h⟩ := exists_of_bind_eq_ok h
    cases h
    exact .added _ rfl rfl
  · cases h
    exact .added _ rfl rfl
  · cases h
    exact .added _ rfl rfl
  · split at h
    · obtain ⟨again, hagain, h⟩ := exists_of_bind_eq_ok h
      cases h
      exact change_of_repeatLast hagain
    · obtain ⟨⟨atom, after⟩, -, h⟩ := exists_of_bind_eq_ok h
      cases h
      exact .added _ rfl rfl

/-! ### The outermost alternation -/

namespace Reading

/-- The alternation outside of all groups. -/
def outermost (s : Reading) : Alternation :=
  match s.outer.getLast? with
  | some group => group.around
  | none => s.present

variable {s s' : Reading}

theorem outermost_of_outer_nil (h : s.outer = []) : s.outermost = s.present := by
  rw [outermost, h]
  rfl

/-- Inside a group the outermost alternation does not change. -/
theorem outermost_of_outer_eq (inside : s.outer ≠ []) (h : s'.outer = s.outer) :
    s'.outermost = s.outermost := by
  obtain ⟨group, outer, houter⟩ := List.exists_cons_of_ne_nil inside
  rw [outermost, outermost, h, houter, List.getLast?_cons]

/-- A group that begins leaves the outermost alternation as it was. -/
theorem outermost_of_opened {group : OpenGroup} (around : group.around = s.present)
    (h : s'.outer = group :: s.outer) : s'.outermost = s.outermost := by
  rw [outermost, outermost, h, List.getLast?_cons]
  cases s.outer.getLast? with
  | none => exact around
  | some last => rfl

/-- The outermost alternation is one branch that begins with an anchor. Outside of all groups there
is something behind the anchor, so no repetition can be about it. -/
structure Anchored (s : Reading) : Prop where
  branches : s.outermost.branches = []
  items : ∃ later, s.outermost.items = later ++ [.part { regex := .look .textStart }] ∧
    (s.outer = [] → later ≠ [])

/-- The anchor is kept where the outermost alternation is. -/
theorem Anchored.of_eq (anchored : s.Anchored) (same : s'.outermost = s.outermost)
    (outside : s'.outer = [] → s.outer = []) : s'.Anchored := by
  obtain ⟨branches, later, items, behind⟩ := anchored
  exact ⟨same ▸ branches, later, same ▸ items, fun none => behind (outside none)⟩

/-- An item more does not touch the anchor. -/
theorem Anchored.of_push (item : Item) (anchored : s.Anchored)
    (same : s'.outermost = s.outermost.push item) : s'.Anchored := by
  obtain ⟨branches, later, items, -⟩ := anchored
  refine ⟨?_, item :: later, ?_, fun _ => List.cons_ne_nil _ _⟩
  · rw [same]
    exact branches
  · rw [same]
    exact congrArg (item :: ·) items

/-- The anchor is kept by every part but a bar outside of all groups. -/
theorem Anchored.step {c : Char} (anchored : s.Anchored) (change : s.Change c s')
    (bar : c = '|' → s.outer ≠ []) : s'.Anchored := by
  cases change with
  | added item present outer =>
    by_cases inside : s.outer = []
    · refine anchored.of_push item ?_
      rw [outermost_of_outer_nil inside, outermost_of_outer_nil (outer.trans inside), present]
    · exact anchored.of_eq (outermost_of_outer_eq inside outer) fun none => outer ▸ none
  | repeated w w' rest before present outer =>
    by_cases inside : s.outer = []
    · obtain ⟨branches, later, items, behind⟩ := anchored
      obtain ⟨first, others, rfl⟩ := List.exists_cons_of_ne_nil (behind inside)
      rw [outermost_of_outer_nil inside] at branches items
      have tail : rest = others ++ [.part { regex := .look .textStart }] :=
        (List.cons.inj (before.symm.trans items)).2
      have after : s'.outermost = ⟨s.present.branches, .part w' :: rest⟩ :=
        (outermost_of_outer_nil (outer.trans inside)).trans present
      refine ⟨?_, .part w' :: others, ?_, fun _ => List.cons_ne_nil _ _⟩
      · rw [after]
        exact branches
      · rw [after, tail]
        rfl
    · exact anchored.of_eq (outermost_of_outer_eq inside outer) fun none => outer ▸ none
  | barred hc present outer =>
    exact anchored.of_eq (outermost_of_outer_eq (bar hc) outer) fun none => outer ▸ none
  | opened group around outer =>
    refine anchored.of_eq (outermost_of_opened around outer) fun none => ?_
    rw [outer] at none
    cases none
  | closed group item outer present =>
    by_cases last : s'.outer = []
    · have around : s.outermost = group.around := by
        rw [outermost, outer, last]
        rfl
      refine anchored.of_push item ?_
      rw [outermost_of_outer_nil last, present, around]
    · refine anchored.of_eq ?_ fun none => absurd none last
      obtain ⟨next, outers, houters⟩ := List.exists_cons_of_ne_nil last
      rw [outermost, outermost, outer, houters, List.getLast?_cons_cons, List.getLast?_cons]

end Reading

/-! ### The whole reading -/

/-- A sequence with an anchor in front is anchored, and it is no alternation. -/
theorem startsText_concat_anchor (rs : List Regex) :
    (concat (.look .textStart :: rs)).startsText = true ∧
      (concat (.look .textStart :: rs)).branches = [concat (.look .textStart :: rs)] := by
  have front : ((Regex.look .textStart :: rs).flatMap parts).foldr consPart [] =
      .look .textStart :: (rs.flatMap parts).foldr consPart [] := rfl
  rw [concat, front]
  cases (rs.flatMap parts).foldr consPart [] with
  | nil => exact ⟨rfl, rfl⟩
  | cons r rest => exact ⟨rfl, rfl⟩

/-- An alternation of one branch with an anchor in front is anchored. -/
theorem startsText_whole {a : Alternation} (branches : a.branches = []) {later : List Item}
    (items : a.items = later ++ [.part { regex := .look .textStart }]) :
    a.whole.regex.startsText = true := by
  have branch : a.branch.regex =
      concat (.look .textStart :: later.reverse.filterMap Item.regex?) := by
    show concat (a.items.reverse.filterMap Item.regex?) = _
    rw [items, List.reverse_append]
    rfl
  obtain ⟨starts, single⟩ := startsText_concat_anchor (later.reverse.filterMap Item.regex?)
  have whole : a.whole.regex = a.branch.regex := by
    show oneOf (((a.branch :: a.branches).reverse).map Written.regex) = _
    rw [branches]
    show oneOf [a.branch.regex] = _
    rw [oneOf, List.flatMap_singleton, branch, single]
  rw [whole, branch, starts]

/-- Whether a bar is read outside of all groups. The fuel is that of `readFrom`. -/
def barOutside : Nat → Reading → Text → Bool
  | 0, _, _ => false
  | fuel + 1, s, t =>
    match s.flags.skip t with
    | [] => false
    | c :: rest =>
      (c == '|' && s.outer.isEmpty) ||
        match readPart fuel s c rest with
        | .ok (s, rest) => barOutside fuel s rest
        | .error _ => false

theorem barOutside_of_readPart {fuel : Nat} {s s' : Reading} {t rest left : Text} {c : Char}
    (hskip : s.flags.skip t = c :: rest) (hpart : readPart fuel s c rest = .ok (s', left)) :
    barOutside (fuel + 1) s t = ((c == '|' && s.outer.isEmpty) || barOutside fuel s' left) := by
  rw [barOutside, hskip]
  simp only [hpart]

/-- Behind an anchor, an expression without a bar outside of all groups is anchored as a whole. -/
theorem startsText_of_readFrom {fuel : Nat} {s : Reading} {t : Text} {w : Written}
    (anchored : s.Anchored) (h : readFrom fuel s t = .ok w) (bars : barOutside fuel s t = false) :
    w.regex.startsText = true := by
  induction fuel generalizing s t with
  | zero => cases h
  | succ fuel ih =>
    rw [readFrom] at h
    split at h
    · split at h
      · next closed =>
        cases h
        obtain ⟨branches, later, items, -⟩ := anchored
        rw [Reading.outermost_of_outer_nil (List.isEmpty_iff.mp closed)] at branches items
        exact startsText_whole branches items
      · cases h
    · next c rest hskip =>
      obtain ⟨⟨s', left⟩, hpart, h⟩ := exists_of_bind_eq_ok h
      rw [barOutside_of_readPart hskip hpart, Bool.or_eq_false_iff] at bars
      refine ih (anchored.step (change_of_readPart hpart) fun hc none => ?_) h bars.2
      rw [hc, none] at bars
      exact absurd bars.1 (by decide)

end Regex

end LineGrammar
