import LineGrammar.Proofs.BlankLine
import LineGrammar.Proofs.Success

/-!
Texts whose lines end in a return and a feed. `Text.withReturns` writes a text of that kind from one
whose lines end in feeds alone. The sections of the two texts are cut by two different searches, and
a line is read after its return has been dropped; still a check does the same on both, but for what
an error of the directions quotes.

* `Text.lines_withReturns`, `Text.trim_withReturns`: lines and trimming do not see the returns.
* `Sections.split_withReturns`: the two searches find the same cut.
* `Run.check_withReturns`: the two runs, result by result, and how they end.
-/

namespace LineGrammar

namespace Text

/-- A character as it is written where feeds come behind a return. -/
def withReturn (c : Char) : Text := if c = '\n' then ['\r', '\n'] else [c]

/-- The text with a carriage return in front of every line feed. -/
def withReturns (t : Text) : Text := t.flatMap withReturn

/-! ### Character by character -/

theorem withReturn_of_ne {c : Char} (h : c ≠ '\n') : withReturn c = [c] := if_neg h

theorem withReturns_nil : withReturns [] = [] := rfl

theorem withReturns_feed (t : Text) : withReturns ('\n' :: t) = '\r' :: '\n' :: withReturns t := rfl

theorem withReturns_cons {c : Char} (h : c ≠ '\n') (t : Text) :
    withReturns (c :: t) = c :: withReturns t := by
  rw [withReturns, List.flatMap_cons, withReturn_of_ne h]
  rfl

theorem withReturns_append (x y : Text) :
    withReturns (x ++ y) = withReturns x ++ withReturns y := List.flatMap_append

theorem withReturns_of_no_feed {t : Text} (h : '\n' ∉ t) : withReturns t = t := by
  induction t with
  | nil => rfl
  | cons c rest ih =>
    have hc : c ≠ '\n' := fun same => h (same ▸ List.mem_cons_self)
    rw [withReturns_cons hc, ih fun later => h (List.mem_cons_of_mem c later)]

theorem withReturns_eq_nil_iff {t : Text} : withReturns t = [] ↔ t = [] := by
  constructor
  · intro h
    cases t with
    | nil => rfl
    | cons c rest =>
      by_cases hc : c = '\n'
      · subst hc
        cases h
      · rw [withReturns_cons hc] at h
        cases h
  · rintro rfl
    rfl

theorem count_withReturns (t : Text) : (withReturns t).count '\n' = t.count '\n' := by
  induction t with
  | nil => rfl
  | cons c rest ih =>
    by_cases hc : c = '\n'
    · subst hc
      simp [withReturns_feed, ih]
    · rw [withReturns_cons hc, List.count_cons_of_ne hc, List.count_cons_of_ne hc, ih]

/-! ### Lines -/

theorem segments_withReturns (t : Text) :
    segments (withReturns t) = (segments t).map withReturns := by
  induction t with
  | nil => rfl
  | cons c rest ih =>
    by_cases hc : c = '\n'
    · subst hc
      have fed : segments ('\n' :: withReturns rest) = ['\n'] :: segments (withReturns rest) :=
        segments_feed _
      rw [withReturns_feed, segments_cons (by decide) fed, segments_feed, List.map_cons, ih]
      rfl
    · rw [withReturns_cons hc]
      cases hs : segments rest with
      | nil =>
        rw [segments_eq_nil_iff.mp hs, withReturns_nil, segments_singleton, List.map_singleton,
          withReturns_cons hc, withReturns_nil]
      | cons piece pieces =>
        rw [hs, List.map_cons] at ih
        rw [segments_cons hc ih, segments_cons hc hs, List.map_cons, withReturns_cons hc]

/-- A piece holds a feed at its end at most. -/
theorem exists_of_mem_segments {t piece : Text} (h : piece ∈ segments t) :
    ∃ x, '\n' ∉ x ∧ (piece = x ∨ piece = x ++ ['\n']) := by
  induction t generalizing piece with
  | nil => cases h
  | cons c rest ih =>
    by_cases hc : c = '\n'
    · subst hc
      rcases List.mem_cons.mp h with rfl | h
      · exact ⟨[], List.not_mem_nil, .inr rfl⟩
      · exact ih h
    · cases hs : segments rest with
      | nil =>
        rw [segments_eq_nil_iff.mp hs, segments_singleton] at h
        rw [List.mem_singleton.mp h]
        exact ⟨[c], fun inside => hc (List.mem_singleton.mp inside).symm, .inl rfl⟩
      | cons first pieces =>
        rw [segments_cons hc hs] at h
        rcases List.mem_cons.mp h with rfl | h
        · obtain ⟨x, hx, hfirst⟩ := ih (hs ▸ List.mem_cons_self)
          refine ⟨c :: x, List.not_mem_cons_of_ne_of_not_mem (Ne.symm hc) hx, ?_⟩
          rcases hfirst with rfl | rfl
          · exact .inl rfl
          · exact .inr rfl
        · exact ih (hs ▸ List.mem_cons_of_mem first h)

/-- A feed is dropped alone where no return stands in front of it. -/
theorem withoutEnding_feed {x : Text} (h : '\r' ∉ x) : withoutEnding (x ++ ['\n']) = x := by
  rw [withoutEnding, List.reverse_append, List.reverse_singleton, List.singleton_append]
  split
  · next rest hrest =>
    have last : '\r' ∈ x.reverse := by
      rw [(List.cons.inj hrest).2]
      exact List.mem_cons_self
    exact absurd (List.mem_reverse.mp last) h
  · next rest _ hrest =>
    rw [← (List.cons.inj hrest).2, List.reverse_reverse]
  · next other => exact absurd rfl (other x.reverse)

/-- What is dropped of an ending is the feed with the return. -/
theorem withoutEnding_withReturns {t piece : Text} (h : '\r' ∉ t) (hpiece : piece ∈ segments t) :
    withoutEnding (withReturns piece) = withoutEnding piece := by
  have inside : '\r' ∉ piece := fun hr =>
    h (by rw [← flatten_segments t]; exact List.mem_flatten.mpr ⟨piece, hpiece, hr⟩)
  obtain ⟨x, hx, rfl | rfl⟩ := exists_of_mem_segments hpiece
  · rw [withReturns_of_no_feed hx]
  · have returned : withReturns (x ++ ['\n']) = x ++ ['\r', '\n'] := by
      rw [withReturns_append, withReturns_of_no_feed hx]
      rfl
    have dropped : withoutEnding (x ++ ['\r', '\n']) = x := by simp [withoutEnding]
    rw [returned, dropped, withoutEnding_feed fun hr => inside (List.mem_append_left _ hr)]

theorem lines_withReturns {t : Text} (h : '\r' ∉ t) : lines (withReturns t) = lines t := by
  rw [lines, segments_withReturns, List.map_map, lines]
  exact List.map_congr_left fun piece hpiece => withoutEnding_withReturns h hpiece

theorem firstContentLine_withReturns {t : Text} (h : '\r' ∉ t) :
    firstContentLine (withReturns t) = firstContentLine t := by
  rw [firstContentLine, lines_withReturns h, firstContentLine]

/-! ### Runs at both ends -/

section Runs

variable {p : Char → Bool} {f : Char → Text}

/-- A run is dropped the same if its characters are written with accepted characters alone and the
others begin with one that is not accepted. -/
theorem dropWhile_flatMap (inside : ∀ c, p c = true → ∀ d ∈ f c, p d = true)
    (outside : ∀ c, p c = false → ∃ d rest, f c = d :: rest ∧ p d = false) (t : Text) :
    (t.flatMap f).dropWhile p = (t.dropWhile p).flatMap f := by
  induction t with
  | nil => rfl
  | cons c rest ih =>
    rw [List.flatMap_cons, List.dropWhile_cons]
    cases hc : p c with
    | true =>
      rw [List.dropWhile_append_of_pos (inside c hc), ih, if_pos rfl]
    | false =>
      obtain ⟨d, more, hd, stops⟩ := outside c hc
      rw [hd, List.cons_append, List.dropWhile_cons, stops, if_neg (by decide), if_neg (by decide),
        List.flatMap_cons, hd, List.cons_append]

end Runs

theorem isBlank_of_mem_withReturn {c : Char} (h : LineGrammar.isBlank c = true) :
    ∀ d ∈ withReturn c, LineGrammar.isBlank d = true := by
  intro d hd
  by_cases feed : c = '\n'
  · subst feed
    rcases List.mem_cons.mp hd with rfl | hd
    · rfl
    · rw [List.mem_singleton.mp hd]
      rfl
  · rw [withReturn_of_ne feed] at hd
    rwa [List.mem_singleton.mp hd]

theorem withReturn_of_content {c : Char} (h : LineGrammar.isBlank c = false) :
    withReturn c = [c] := by
  refine withReturn_of_ne ?_
  rintro rfl
  cases h

theorem trimStart_withReturns (t : Text) : trimStart (withReturns t) = withReturns (trimStart t) :=
  dropWhile_flatMap (fun _ => isBlank_of_mem_withReturn)
    (fun c hc => ⟨c, [], withReturn_of_content hc, hc⟩) t

theorem trimEnd_withReturns (t : Text) : trimEnd (withReturns t) = withReturns (trimEnd t) := by
  let backwards (c : Char) : Text := (withReturn c).reverse
  have reversed : (withReturns t).reverse = t.reverse.flatMap backwards := List.reverse_flatMap
  have dropped : (t.reverse.flatMap backwards).dropWhile LineGrammar.isBlank =
      (t.reverse.dropWhile LineGrammar.isBlank).flatMap backwards := by
    refine dropWhile_flatMap (fun c hc d hd => ?_) (fun c hc => ⟨c, [], ?_, hc⟩) _
    · exact isBlank_of_mem_withReturn hc d (List.mem_reverse.mp hd)
    · exact congrArg List.reverse (withReturn_of_content hc)
  rw [trimEnd, reversed, dropped, List.reverse_flatMap, trimEnd, withReturns]
  congr 1
  funext c
  exact List.reverse_reverse _

theorem trim_withReturns (t : Text) : trim (withReturns t) = withReturns (trim t) := by
  rw [trim, trimStart_withReturns, trimEnd_withReturns, trim]

/-! ### The cut -/

theorem not_feed_prefix_withReturns (t : Text) : ¬['\n'] <+: withReturns t := by
  intro h
  cases t with
  | nil => cases List.prefix_nil.mp h
  | cons c rest =>
    by_cases hc : c = '\n'
    · subst hc
      cases (List.cons_prefix_cons.mp h).1
    · rw [withReturns_cons hc] at h
      exact hc (List.cons_prefix_cons.mp h).1.symm

/-- No line is empty behind a feed alone. -/
theorem cutAt_feeds_withReturns (t : Text) : cutAt (withReturns t) "\n\n".toList = none := by
  induction t with
  | nil => rfl
  | cons c rest ih =>
    by_cases hc : c = '\n'
    · subst hc
      have first : ¬"\n\n".toList <+: '\r' :: '\n' :: withReturns rest := fun h => by
        cases (List.cons_prefix_cons.mp h).1
      have second : ¬"\n\n".toList <+: '\n' :: withReturns rest := fun h =>
        not_feed_prefix_withReturns rest (List.cons_prefix_cons.mp h).2
      rw [withReturns_feed, cutAt_cons_of_not_prefix first, cutAt_cons_of_not_prefix second, ih]
      rfl
    · have here : ¬"\n\n".toList <+: c :: withReturns rest := fun h =>
        hc (List.cons_prefix_cons.mp h).1.symm
      rw [withReturns_cons hc, cutAt_cons_of_not_prefix here, ih]
      rfl

/-- An empty line behind a feed is one behind a return and a feed. -/
theorem cutAt_withReturns {t : Text} (h : '\r' ∉ t) :
    cutAt (withReturns t) "\r\n\r\n".toList =
      (cutAt t "\n\n".toList).map fun cut => (withReturns cut.1, withReturns cut.2) := by
  induction t with
  | nil => rfl
  | cons c rest ih =>
    have later := ih fun hr => h (List.mem_cons_of_mem c hr)
    by_cases gap : "\n\n".toList <+: c :: rest
    · obtain ⟨nodes, hnodes⟩ := gap
      rw [← hnodes]
      rfl
    · have here := cutAt_cons_of_not_prefix gap
      by_cases hc : c = '\n'
      · subst hc
        have first : ¬"\r\n\r\n".toList <+: '\r' :: '\n' :: withReturns rest := by
          intro hr
          have behind : ['\r', '\n'] <+: withReturns rest :=
            (List.cons_prefix_cons.mp (List.cons_prefix_cons.mp hr).2).2
          cases rest with
          | nil => cases List.prefix_nil.mp behind
          | cons d more =>
            by_cases hd : d = '\n'
            · subst hd
              exact gap ⟨more, rfl⟩
            · rw [withReturns_cons hd] at behind
              have inside : '\r' ∈ '\n' :: d :: more := by
                rw [← (List.cons_prefix_cons.mp behind).1]
                simp
              exact h inside
        have second : ¬"\r\n\r\n".toList <+: '\n' :: withReturns rest := fun hr => by
          cases (List.cons_prefix_cons.mp hr).1
        rw [withReturns_feed, cutAt_cons_of_not_prefix first, cutAt_cons_of_not_prefix second, here,
          later]
        cases cutAt rest "\n\n".toList <;> rfl
      · have there : ¬"\r\n\r\n".toList <+: c :: withReturns rest := fun hr =>
          h ((List.cons_prefix_cons.mp hr).1 ▸ List.mem_cons_self)
        rw [withReturns_cons hc, cutAt_cons_of_not_prefix there, here, later]
        cases cutAt rest "\n\n".toList with
        | none => rfl
        | some cut => exact congrArg (fun front => some (front, _)) (withReturns_cons hc cut.1).symm

end Text

namespace Sections

/-- The sections written with returns. The nodes begin on the same line. -/
def withReturns (s : Sections) : Sections :=
  ⟨s.directions.withReturns, s.nodes.withReturns, s.firstNodeLine⟩

/-- **Both searches find the same cut**: with returns only the second one finds any. -/
theorem split_withReturns {t : Text} (h : '\r' ∉ t) :
    split t.withReturns = (split t).map withReturns := by
  have unreturned : t.cutAt "\r\n\r\n".toList = none := by
    cases hcut : t.cutAt "\r\n\r\n".toList with
    | none => rfl
    | some cut =>
      have whole := Text.eq_of_cutAt hcut
      exact absurd (by rw [whole]; simp) h
  rw [split, Text.cutAt_feeds_withReturns, split, Text.cutAt_withReturns h, unreturned]
  cases t.cutAt "\n\n".toList with
  | none => rfl
  | some cut =>
    simp only [Option.map_some, ofCut, withReturns, Text.count_withReturns]

/-- The sections of a text hold nothing that the text does not hold. -/
theorem not_mem_of_split {t : Text} {s : Sections} {c : Char} (h : split t = some s) (hc : c ∉ t) :
    c ∉ s.directions ∧ c ∉ s.nodes := by
  obtain ⟨⟨ending, -, htext⟩, -⟩ := eq_of_split h
  rw [htext] at hc
  simp only [List.mem_append, not_or] at hc
  exact ⟨hc.1.1, hc.2⟩

end Sections

/-- The kinds of errors. -/
inductive ParseError.Kind where
  | unexpectedCharacter
  | emptyMatch
  | numberOutOfRange
  | trailingInput
  deriving DecidableEq, Repr

/-- The kind of an error, whatever it quotes. -/
def ParseError.kind : ParseError → Kind
  | unexpectedCharacter .. => .unexpectedCharacter
  | emptyMatch .. => .emptyMatch
  | numberOutOfRange .. => .numberOutOfRange
  | trailingInput .. => .trailingInput

/-! ### Directions -/

namespace Directions

theorem dropWhile_isTurn_withReturns (t : Text) :
    t.withReturns.dropWhile isTurn = Text.withReturns (t.dropWhile isTurn) := by
  refine Text.dropWhile_flatMap (fun c hc d hd => ?_) (fun c hc => ?_) t
  · have feed : c ≠ '\n' := by
      rintro rfl
      cases hc
    rw [Text.withReturn_of_ne feed] at hd
    rwa [List.mem_singleton.mp hd]
  · by_cases feed : c = '\n'
    · subst feed
      exact ⟨'\r', ['\n'], rfl, rfl⟩
    · exact ⟨c, [], Text.withReturn_of_ne feed, hc⟩

theorem takeWhile_isTurn_withReturns (t : Text) :
    t.withReturns.takeWhile isTurn = t.takeWhile isTurn := by
  have turns : Text.withReturns (t.takeWhile isTurn) = t.takeWhile isTurn := by
    refine Text.withReturns_of_no_feed fun feed => ?_
    cases List.all_eq_true.mp List.all_takeWhile _ feed
  have whole : t.withReturns.takeWhile isTurn ++ t.withReturns.dropWhile isTurn =
      t.takeWhile isTurn ++ t.withReturns.dropWhile isTurn := calc
    t.withReturns.takeWhile isTurn ++ t.withReturns.dropWhile isTurn
      = Text.withReturns (t.takeWhile isTurn ++ t.dropWhile isTurn) := by
        rw [List.takeWhile_append_dropWhile, List.takeWhile_append_dropWhile]
    _ = t.takeWhile isTurn ++ t.withReturns.dropWhile isTurn := by
        rw [Text.withReturns_append, turns, dropWhile_isTurn_withReturns]
  exact List.append_cancel_right whole

/-- Directions are accepted with the same turns, or refused for a reason of the same kind. What is
quoted of them may have more characters. -/
theorem parse_withReturns (t : Text) :
    (parse t.withReturns).mapError ParseError.kind = (parse t).mapError ParseError.kind := by
  rw [parse_eq, parse_eq, Text.trim_withReturns]
  simp only [Parser.complete, Parser.takeWhile1, takeWhile_isTurn_withReturns,
    dropWhile_isTurn_withReturns]
  cases t.trim.takeWhile isTurn with
  | nil => rfl
  | cons c run =>
    cases hrest : t.trim.dropWhile isTurn with
    | nil => rfl
    | cons d rest =>
      have left : Text.withReturns (d :: rest) ≠ [] := fun none =>
        List.cons_ne_nil d rest (Text.withReturns_eq_nil_iff.mp none)
      obtain ⟨e, more, hleft⟩ := List.exists_cons_of_ne_nil left
      simp only [hleft]
      rfl

end Directions

/-! ### Tasks -/

/-- Answers to tasks of one role that differ in nothing but what an error of directions quotes. -/
def Role.Alike : Role → Except ParseError Text → Except ParseError Text → Prop
  | .node, a, b => a = b
  | .directions, a, b => a.mapError ParseError.kind = b.mapError ParseError.kind

namespace Role

theorem Alike.refl (role : Role) (answer : Except ParseError Text) : role.Alike answer answer := by
  cases role <;> rfl

/-- Alike answers are values at once, and then equal. -/
theorem Alike.cases {role : Role} {a b : Except ParseError Text} (h : role.Alike a b) :
    (∃ value, a = .ok value ∧ b = .ok value) ∨ ∃ e e', a = .error e ∧ b = .error e' := by
  cases role with
  | node =>
    have same : a = b := h
    subst same
    cases a with
    | ok value => exact .inl ⟨value, rfl, rfl⟩
    | error e => exact .inr ⟨e, e, rfl, rfl⟩
  | directions =>
    have same : a.mapError ParseError.kind = b.mapError ParseError.kind := h
    cases a with
    | ok value =>
      cases b with
      | ok other =>
        cases same
        exact .inl ⟨value, rfl, rfl⟩
      | error e => cases same
    | error e =>
      cases b with
      | ok value => cases same
      | error e' => exact .inr ⟨e, e', rfl, rfl⟩

end Role

namespace Task

/-- A task on the same text with returns. A node line has none, with its ending dropped. -/
def withReturns (task : Task) : Task :=
  match task.role with
  | .directions => { task with text := task.text.withReturns }
  | .node => task

theorem line_withReturns (task : Task) : task.withReturns.line = task.line := by
  obtain ⟨line, role, text⟩ := task
  cases role <;> rfl

theorem alike_withReturns (task : Task) :
    task.role.Alike task.withReturns.answer task.answer := by
  obtain ⟨line, role, text⟩ := task
  cases role with
  | node => rfl
  | directions => exact Directions.parse_withReturns text

theorem ofDirections_withReturns {block : Text} (h : '\r' ∉ block) :
    ofDirections block.withReturns = (ofDirections block).withReturns := by
  rw [ofDirections, Text.firstContentLine_withReturns h]
  rfl

theorem ofNodes_withReturns {block : Text} (h : '\r' ∉ block) (first : Nat) :
    ofNodes first block.withReturns = (ofNodes first block).map withReturns := by
  rw [ofNodes, Text.lines_withReturns h, ofNodes, List.map_map]
  rfl

end Task

/-- The tasks of the text with returns are those of the text, with returns. -/
theorem Grammar.tasks_withReturns {t : Text} (h : '\r' ∉ t) (grammar : Grammar) :
    grammar.tasks t.withReturns = (grammar.tasks t).map (List.map Task.withReturns) := by
  cases grammar with
  | directions =>
    rw [tasks, Task.ofDirections_withReturns h]
    rfl
  | nodes =>
    rw [tasks, Task.ofNodes_withReturns h]
    rfl
  | network =>
    rw [tasks, Sections.split_withReturns h, tasks]
    cases hs : Sections.split t with
    | none => rfl
    | some s =>
      obtain ⟨directions, nodes⟩ := Sections.not_mem_of_split hs h
      simp only [Option.map_some, Sections.withReturns, Task.ofDirections_withReturns directions,
        Task.ofNodes_withReturns nodes]
      rfl

/-- What each task of a grammar is read as. -/
theorem Grammar.role_of_tasks {grammar : Grammar} {t : Text} {tasks : List Task}
    (h : grammar.tasks t = .ok tasks) {k : Nat} {task : Task} (hk : tasks[k]? = some task) :
    task.role = grammar.roleAt k := by
  have node {first : Nat} {block : Text} {j : Nat} (hj : (Task.ofNodes first block)[j]? = some task) :
      task.role = .node := by
    obtain ⟨line, -, rfl⟩ := List.mem_map.mp (List.mem_of_getElem? hj)
    rfl
  cases grammar with
  | directions =>
    cases h
    cases k with
    | zero =>
      cases hk
      rfl
    | succ k => cases hk
  | nodes =>
    cases h
    exact node hk
  | network =>
    rw [Grammar.tasks] at h
    split at h
    · cases h
    · cases h
      cases k with
      | zero =>
        cases hk
        rfl
      | succ k => exact node hk

/-! ### Runs -/

namespace Run

/-- Results on the same lines with alike answers; `roleAt` says what the result at a place is an
answer to. -/
structure ResultsAlike (roleAt : Nat → Role) (as bs : List LineResult) : Prop where
  lines : as.map LineResult.line = bs.map LineResult.line
  answers : ∀ k a b, as[k]? = some a → bs[k]? = some b → (roleAt k).Alike a.answer b.answer

/-- Two ways to end that are the same but for the errors. `place` is that of a failure that ends a
run, behind the results that were handed on. -/
inductive EndsAlike (roleAt : Nat → Role) (place : Nat) :
    Except CheckFault (List LineResult) → Except CheckFault (List LineResult) → Prop
  | returned {as bs : List LineResult} (results : ResultsAlike roleAt as bs) :
      EndsAlike roleAt place (.ok as) (.ok bs)
  | missingSection (name : Text) :
      EndsAlike roleAt place (.error (.missingSection name)) (.error (.missingSection name))
  | line (number : Nat) {e e' : ParseError} (causes : (roleAt place).Alike (.error e) (.error e')) :
      EndsAlike roleAt place (.error (.line number e)) (.error (.line number e'))

/-- Two runs that hand on alike results and end alike. -/
structure Alike (roleAt : Nat → Role) (run other : Run) : Prop where
  streamed : ResultsAlike roleAt run.streamed other.streamed
  outcome : EndsAlike roleAt other.streamed.length run.outcome other.outcome

variable {roleAt : Nat → Role}

theorem ResultsAlike.nil : ResultsAlike roleAt [] [] := ⟨rfl, fun k a b h => by cases h⟩

theorem ResultsAlike.cons {a b : LineResult} {as bs : List LineResult} (line : a.line = b.line)
    (answer : (roleAt 0).Alike a.answer b.answer)
    (others : ResultsAlike (fun k => roleAt (k + 1)) as bs) :
    ResultsAlike roleAt (a :: as) (b :: bs) := by
  refine ⟨?_, fun k x y hx hy => ?_⟩
  · rw [List.map_cons, List.map_cons, line, others.lines]
  · cases k with
    | zero =>
      cases hx
      cases hy
      exact answer
    | succ k => exact others.answers k x y hx hy

/-- A result in front of both runs. -/
theorem Alike.record {a b : LineResult} {run other : Run} (line : a.line = b.line)
    (answer : (roleAt 0).Alike a.answer b.answer)
    (later : Alike (fun k => roleAt (k + 1)) run other) :
    Alike roleAt (record a run) (record b other) := by
  refine ⟨later.streamed.cons line answer, ?_⟩
  have ends := later.outcome
  show EndsAlike roleAt (other.streamed.length + 1) (run.outcome.map (a :: ·))
    (other.outcome.map (b :: ·))
  generalize run.outcome = x at ends
  generalize other.outcome = y at ends
  cases ends with
  | returned results => exact .returned (results.cons line answer)
  | missingSection name => exact .missingSection name
  | line number causes => exact .line number causes

theorem Alike.finish {run other : Run} (h : Alike roleAt run other) :
    Alike roleAt run.finish other.finish := by
  constructor
  · rw [streamed_finish, streamed_finish]
    exact h.streamed
  · rw [outcome_finish, outcome_finish, streamed_finish]
    exact h.outcome

/-- Answering the tasks with returns. -/
theorem alike_ofTasks_withReturns (keepGoing : Bool) {tasks : List Task}
    (roles : ∀ k task, tasks[k]? = some task → task.role = roleAt k) :
    Alike roleAt (ofTasks keepGoing (tasks.map Task.withReturns)) (ofTasks keepGoing tasks) := by
  induction tasks generalizing roleAt with
  | nil => exact ⟨.nil, .returned .nil⟩
  | cons task rest ih =>
    have later : Alike (fun k => roleAt (k + 1)) (ofTasks keepGoing (rest.map Task.withReturns))
        (ofTasks keepGoing rest) := ih fun k => roles (k + 1)
    have alike := task.alike_withReturns
    rw [roles 0 task rfl] at alike
    rw [List.map_cons, ofTasks, ofTasks, task.line_withReturns]
    rcases alike.cases with ⟨value, hreturned, hanswer⟩ | ⟨e, e', hreturned, hanswer⟩
    · rw [hreturned, hanswer]
      exact later.record rfl (.refl _ _)
    · rw [hreturned, hanswer] at alike ⊢
      cases keepGoing with
      | true => exact later.record rfl alike
      | false => exact ⟨.nil, .line task.line alike⟩

/-- **Returns in front of the feeds change nothing in a check** but what an error of the directions
quotes. For a text without returns, any grammar and either policy, the run on the text with returns
hands on as many results, with the same numbers in the same order; the same of them are failures,
the values are the same, and so are the errors of node lines; an error of directions is of the same
kind. Both runs return, both miss a section, or both end with a failure on the same line. -/
theorem check_withReturns {t : Text} (h : '\r' ∉ t) (grammar : Grammar) (keepGoing : Bool) :
    Alike grammar.roleAt (check grammar keepGoing t.withReturns) (check grammar keepGoing t) := by
  have returned := Grammar.tasks_withReturns h grammar
  cases ht : grammar.tasks t with
  | error fault =>
    rw [ht] at returned
    obtain rfl := Grammar.tasks_eq_error ht
    rw [check_of_fault returned, check_of_fault ht]
    exact ⟨.nil, .missingSection _⟩
  | ok tasks =>
    rw [ht] at returned
    rw [check_of_tasks returned, check_of_tasks ht]
    exact (alike_ofTasks_withReturns keepGoing fun k task => Grammar.role_of_tasks ht).finish

/-- Directions with a blank line in front, and a node line that fails. -/
theorem check_withReturns_of_failing_line :
    Text.withReturns "\nLR\n\nA = (B, C)\nB = D\n".toList =
        "\r\nLR\r\n\r\nA = (B, C)\r\nB = D\r\n".toList ∧
      (check .network true
        (Text.withReturns "\nLR\n\nA = (B, C)\nB = D\n".toList)).streamed.map
          LineResult.line = [2, 4, 5] := by
  have unreturned : '\r' ∉ "\nLR\n\nA = (B, C)\nB = D\n".toList := by decide
  have tasks : Grammar.network.tasks "\nLR\n\nA = (B, C)\nB = D\n".toList =
      .ok [⟨2, .directions, "\nLR".toList⟩, ⟨4, .node, "A = (B, C)".toList⟩,
        ⟨5, .node, "B = D".toList⟩] := by
    decide +kernel
  refine ⟨by decide, ?_⟩
  rw [(check_withReturns unreturned .network true).streamed.lines, streamed_keepGoing tasks]
  rfl

end Run

end LineGrammar
