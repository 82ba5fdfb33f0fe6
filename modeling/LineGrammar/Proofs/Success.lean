import LineGrammar.Proofs.ContentLines
import LineGrammar.Proofs.RepeatedSet
import LineGrammar.Proofs.Trace

/-!
What a success says about the whole text. Directions are read as one block and nodes line by line,
so a block of directions could hold lines that no result stands for. It does not: directions that
are accepted are one run of turns between blanks, and such a block has one line with content. So a
run without a failure has read every line with content by itself.

* `Directions.contentLines_of_parse`: a block of accepted directions has one line with content.
* `Grammar.results_of_success`: the results of a success are those of the lines with content.
* `Run.success_ignores_nothing`: the account of a success by the lines of the whole text.
-/

namespace LineGrammar

namespace Directions

/-- Accepted directions have one line with content, also with blanks behind them. That line stands
for the block: it has the number of the block and is accepted with the same turns. -/
theorem contentLines_of_parse {block value : Text} (h : parse block = .ok value) (blanks : Text)
    (hblanks : blanks.isBlank = true) :
    ∃ line, (block ++ blanks).contentLines = [(block.firstContentLine, line)] ∧
      parse line = .ok value := by
  obtain ⟨rfl, run⟩ := parse_eq_ok_iff.mp h
  obtain ⟨front, back, hblock, hfront, hback⟩ := block.exists_trim
  have content : ∀ c ∈ block.trim, isBlank c = false := fun c hc =>
    isBlank_eq_false_of_isTurn (run.all c hc)
  have hend : Text.isBlank (back ++ blanks) = true := by
    rw [Text.isBlank_append, hback, hblanks]
    rfl
  have first : block.firstContentLine = front.count '\n' + 1 := by
    obtain ⟨c, rest, hc⟩ := List.exists_cons_of_ne_nil run.ne_nil
    have hcontent : isBlank c = false := content c (hc ▸ List.mem_cons_self)
    rw [hblock, hc, List.append_assoc]
    exact Text.firstContentLine_of_content hfront hcontent (rest ++ back)
  obtain ⟨line, hlines, htrim⟩ :=
    Text.contentLines_around_run run.ne_nil content hfront hend
  refine ⟨line, ?_, parse_eq_ok_iff.mpr ⟨htrim.symm, htrim.symm ▸ run⟩⟩
  rw [first, ← hlines, ← List.append_assoc, ← hblock]

/-- A block with two or more lines with content is refused. -/
theorem refuses_two_lines {block : Text} (h : 2 ≤ block.contentLines.length) (value : Text) :
    parse block ≠ .ok value := by
  intro accepted
  obtain ⟨line, hlines, -⟩ := contentLines_of_parse accepted [] rfl
  rw [List.append_nil] at hlines
  rw [hlines] at h
  exact Nat.lt_irrefl 1 h

end Directions

/-- A numbered line as a task of its own. -/
def Role.task (role : Role) (line : Nat × Text) : Task := ⟨line.1, role, line.2⟩

/-- The value of a line gives the line back: trimmed, or as the node on it. -/
theorem Role.value_task {role : Role} {line : Nat × Text} {value : Text}
    (h : (role.task line).answer = .ok value) :
    (role = .directions → value = line.2.trim) ∧
      (role = .node → ∃ node, Node.parse line.2 = .ok node ∧ value = node.text) := by
  cases role with
  | directions => exact ⟨fun _ => (Directions.parse_eq_ok_iff.mp h).1, nofun⟩
  | node =>
    refine ⟨nofun, fun _ => ?_⟩
    have mapped : (Node.parse line.2).map Node.text = .ok value := h
    cases hnode : Node.parse line.2 with
    | error cause =>
      rw [hnode] at mapped
      cases mapped
    | ok node =>
      rw [hnode] at mapped
      cases mapped
      exact ⟨node, rfl, rfl⟩

namespace Grammar

/-- What a line with content is read as, by its place among those lines. -/
def roleAt : Grammar → Nat → Role
  | directions, _ => .directions
  | nodes, _ => .node
  | network, 0 => .directions
  | network, _ + 1 => .node

/-- The block that is read as directions. -/
def directionsBlock (t : Text) : Grammar → Option Text
  | directions => some t
  | nodes => none
  | network => (Sections.split t).map Sections.directions

/-- The lines with content as tasks, each line by itself. -/
def lineTasks (grammar : Grammar) (t : Text) : List Task :=
  t.contentLines.mapIdx fun k => (grammar.roleAt k).task

theorem lineTasks_nodes (t : Text) : nodes.lineTasks t = Task.ofNodes 1 t :=
  List.mapIdx_eq_iff.mpr fun _ => List.getElem?_map

/-- In a network the first line with content is read as directions and the others as nodes. -/
theorem lineTasks_network {t block : Text} {first number : Nat} {line : Text}
    (h : t.contentLines = (number, line) :: Text.contentFrom first block.lines) :
    network.lineTasks t = ⟨number, .directions, line⟩ :: Task.ofNodes first block := by
  rw [lineTasks, h, List.mapIdx_cons]
  exact congrArg (_ :: ·) (List.mapIdx_eq_iff.mpr fun _ => List.getElem?_map)

/-- The lines with content of a network whose directions are accepted. -/
theorem contentLines_of_split {t value : Text} {s : Sections} (hs : Sections.split t = some s)
    (h : Directions.parse s.directions = .ok value) :
    ∃ line, t.contentLines = (s.directions.firstContentLine, line) ::
        Text.contentFrom s.firstNodeLine s.nodes.lines ∧
      Directions.parse line = .ok value := by
  obtain ⟨ending, hending, hlines, hfirst⟩ := Sections.lines_of_eq_split hs
  obtain ⟨line, hline, hparse⟩ := Directions.contentLines_of_parse h ending hending.isBlank
  refine ⟨line, ?_, hparse⟩
  have separator : Text.contentFrom (1 + (s.directions ++ ending).lines.length) [[]] = [] :=
    Text.contentFrom_of_isBlank _ fun other hother => by rw [List.mem_singleton.mp hother]; rfl
  calc t.contentLines
      = Text.contentFrom 1 ((s.directions ++ ending).lines ++ [[]] ++ s.nodes.lines) := by
        rw [Text.contentLines, hlines]
    _ = Text.contentLines (s.directions ++ ending) ++
          Text.contentFrom s.firstNodeLine s.nodes.lines := by
        rw [Text.contentFrom_append, hfirst, Text.contentFrom_append, separator, List.append_nil,
          Text.contentLines]
    _ = _ := by
        rw [hline]
        rfl

/-- A success answers the blocks as it would answer their lines one by one. -/
theorem results_of_success {grammar : Grammar} {t : Text} {blocks : List Task}
    (h : grammar.tasks t = .ok blocks)
    (success : ∀ task ∈ blocks, task.result.isFailure = false) :
    blocks.map Task.result = (grammar.lineTasks t).map Task.result := by
  cases grammar with
  | directions =>
    cases h
    obtain ⟨value, hvalue⟩ :=
      LineResult.isFailure_eq_false_iff.mp (success _ List.mem_cons_self)
    have accepted : Directions.parse t = .ok value := hvalue
    obtain ⟨line, hlines, hline⟩ := Directions.contentLines_of_parse accepted [] rfl
    rw [List.append_nil] at hlines
    rw [lineTasks, hlines]
    show [(⟨_, Directions.parse t⟩ : LineResult)] = [⟨_, Directions.parse line⟩]
    rw [accepted, hline]
    rfl
  | nodes =>
    cases h
    rw [lineTasks_nodes]
  | network =>
    rw [tasks] at h
    split at h
    · cases h
    · next s hs =>
      cases h
      obtain ⟨value, hvalue⟩ :=
        LineResult.isFailure_eq_false_iff.mp (success _ List.mem_cons_self)
      have accepted : Directions.parse s.directions = .ok value := hvalue
      obtain ⟨line, hlines, hline⟩ := contentLines_of_split hs accepted
      rw [lineTasks_network hlines, List.map_cons, List.map_cons]
      show (⟨_, Directions.parse s.directions⟩ : LineResult) :: _ = ⟨_, Directions.parse line⟩ :: _
      rw [accepted, hline]
      rfl

/-- The block of directions is the first task. -/
theorem tasks_of_directionsBlock {grammar : Grammar} {t block : Text}
    (h : grammar.directionsBlock t = some block) :
    ∃ more, grammar.tasks t = .ok (Task.ofDirections block :: more) := by
  cases grammar with
  | directions =>
    cases h
    exact ⟨[], rfl⟩
  | nodes => cases h
  | network =>
    obtain ⟨s, hs, rfl⟩ := Option.map_eq_some_iff.mp h
    exact ⟨Task.ofNodes s.firstNodeLine s.nodes, by rw [tasks, hs]⟩

end Grammar

namespace Run

/-- A run that returned results without a failure among them. -/
def Succeeds (run : Run) (results : List LineResult) : Prop :=
  run.outcome = .ok results ∧ ∀ r ∈ results, r.isFailure = false

/-- A success has answered every task with a value. -/
theorem Succeeds.tasks {grammar : Grammar} {keepGoing : Bool} {t : Text}
    {results : List LineResult} (h : (check grammar keepGoing t).Succeeds results) :
    ∃ tasks, grammar.tasks t = .ok tasks ∧ results = tasks.map Task.result ∧
      ∀ task ∈ tasks, task.result.isFailure = false := by
  obtain ⟨tasks, htasks, rfl⟩ := tasks_of_outcome h.1
  exact ⟨tasks, htasks, rfl, fun task htask => h.2 _ (List.mem_map_of_mem htask)⟩

/-- **A success has ignored nothing.** For any grammar, strict or not: a run that returns without a
failure has one result for each line with content of the whole text, in their order. Each result
has the number of its line and gives back the line, trimmed where it is read as directions, or the
node that it spells. A block of directions with two or more lines with content never succeeds. -/
theorem success_ignores_nothing (grammar : Grammar) (keepGoing : Bool) (t : Text) :
    (∀ results, (check grammar keepGoing t).Succeeds results →
      results.length = t.contentLines.length ∧
      ∀ k number line r, t.contentLines[k]? = some (number, line) → results[k]? = some r →
        r.line = number ∧
        (grammar.roleAt k = .directions → r.answer = .ok line.trim) ∧
        (grammar.roleAt k = .node →
          ∃ node, Node.parse line = .ok node ∧ r.answer = .ok node.text)) ∧
    ∀ block, grammar.directionsBlock t = some block → 2 ≤ block.contentLines.length →
      ¬∃ results, (check grammar keepGoing t).Succeeds results := by
  refine ⟨fun results h => ?_, fun block hblock hlength => ?_⟩
  · obtain ⟨tasks, htasks, hresults, success⟩ := h.tasks
    rw [Grammar.results_of_success htasks success] at hresults
    refine ⟨?_, fun k number line r hline hr => ?_⟩
    · rw [hresults, List.length_map, Grammar.lineTasks, List.length_mapIdx]
    · obtain ⟨value, hvalue⟩ :=
        LineResult.isFailure_eq_false_iff.mp (h.2 r (List.mem_of_getElem? hr))
      rw [hresults, List.getElem?_map, Grammar.lineTasks, List.getElem?_mapIdx, hline] at hr
      cases hr
      have answered : ((grammar.roleAt k).task (number, line)).answer = .ok value := hvalue
      obtain ⟨directions, node⟩ := Role.value_task answered
      refine ⟨rfl, fun role => ?_, fun role => ?_⟩
      · rw [hvalue, directions role]
      · obtain ⟨n, hn, rfl⟩ := node role
        exact ⟨n, hn, hvalue⟩
  · rintro ⟨results, h⟩
    obtain ⟨more, htasks⟩ := Grammar.tasks_of_directionsBlock hblock
    obtain ⟨tasks, htasks', -, success⟩ := h.tasks
    rw [htasks] at htasks'
    cases htasks'
    obtain ⟨value, hvalue⟩ :=
      LineResult.isFailure_eq_false_iff.mp (success _ List.mem_cons_self)
    exact Directions.refuses_two_lines hlength value hvalue

/-- Blanks around the directions and line endings of two characters: there are two lines with
content, and the second result is that of the node. Directions on two lines do not succeed. -/
theorem success_ignores_nothing_on_fourth_line :
    (Text.contentLines "\r\n LR\r\n\r\nAAA = (B, C)\r\n".toList).length = 2 ∧
      (∃ node, Node.parse "AAA = (B, C)".toList = .ok node ∧
        (.ok "AAA -> (B, C)".toList : Except ParseError Text) = .ok node.text) ∧
      ¬∃ results, (check .network false "LR\nL\n\nAAA = (B, C)\n".toList).Succeeds results := by
  have tasks : Grammar.network.tasks "\r\n LR\r\n\r\nAAA = (B, C)\r\n".toList =
      .ok [⟨2, .directions, "\r\n LR".toList⟩, ⟨4, .node, "AAA = (B, C)".toList⟩] := by
    decide +kernel
  have turns : Directions.parse "\r\n LR".toList = .ok "LR".toList :=
    Directions.parse_eq_ok_iff.mpr ⟨rfl, nofun, List.all_eq_true.mp rfl⟩
  have success : (check .network true "\r\n LR\r\n\r\nAAA = (B, C)\r\n".toList).Succeeds
      [⟨2, .ok "LR".toList⟩, ⟨4, .ok "AAA -> (B, C)".toList⟩] := by
    refine ⟨?_, by simp [LineResult.isFailure]⟩
    rw [outcome_keepGoing tasks]
    show Except.ok [(⟨2, Directions.parse "\r\n LR".toList⟩ : LineResult), _] = _
    rw [turns]
    rfl
  obtain ⟨length, results⟩ := (success_ignores_nothing .network true _).1 _ success
  obtain ⟨-, -, node⟩ := results 1 4 "AAA = (B, C)".toList _ (by decide +kernel) rfl
  refine ⟨length.symm, node rfl, ?_⟩
  exact (success_ignores_nothing .network false _).2 "LR\nL".toList (by decide +kernel)
    (by decide +kernel)

end Run

end LineGrammar
