import LineGrammar.Proofs.Coverage
import LineGrammar.Proofs.Written

/-!
What the flag for quiet reports changes. Two runs of the command on one input, one of them quiet,
write the same to the error channel and end with the same status. The output channel gets the same
values in the same order, with or without decoration, and a summary only where a report that is not
quiet is about a run that returned.

* `Run.ascending_streamed`: the order of the results is that of the lines.
* `Program.quiet_changes_decoration`: the two runs of the command.
-/

namespace LineGrammar

/-! ### The order of results -/

/-- The tasks of a text go up along its lines. -/
theorem Grammar.ascending_tasks {grammar : Grammar} {t : Text} {tasks : List Task}
    (h : grammar.tasks t = .ok tasks) : LineResult.Ascending (tasks.map Task.result) := by
  cases grammar with
  | directions =>
    cases h
    exact List.pairwise_singleton _ _
  | nodes =>
    cases h
    have results : (Task.ofNodes 1 t).map Task.result = t.nodeResults 1 :=
      Text.map_result_ofNodes (List.nil_append _).symm rfl
    rw [results]
    exact t.ascending_nodeResults 1
  | network =>
    rw [Grammar.tasks] at h
    split at h
    · cases h
    · next s hs =>
      cases h
      obtain ⟨front, hlines, hfirst⟩ := Sections.lines_of_split hs
      rw [List.map_cons, Text.map_result_ofNodes hlines hfirst]
      refine List.pairwise_cons.mpr ⟨fun number h => ?_, t.ascending_nodeResults _⟩
      obtain ⟨r, hr, rfl⟩ := List.mem_map.mp h
      exact Nat.lt_of_lt_of_le (Sections.firstContentLine_lt hs) (Text.le_line_of_mem_nodeResults hr)

namespace Run

/-- What a run hands on is the beginning of its results. -/
theorem prefix_streamed_ofTasks (keepGoing : Bool) (tasks : List Task) :
    (ofTasks keepGoing tasks).streamed <+: tasks.map Task.result := by
  induction tasks with
  | nil => exact List.nil_prefix
  | cons task rest ih =>
    have recorded : (record task.result (ofTasks keepGoing rest)).streamed <+:
        (task :: rest).map Task.result := (List.prefix_cons_inj _).mpr ih
    rw [ofTasks]
    cases h : task.answer with
    | ok value => rwa [Task.result, h] at recorded
    | error cause =>
      cases keepGoing with
      | true => rwa [Task.result, h] at recorded
      | false => exact List.nil_prefix

theorem ascending_streamed (grammar : Grammar) (keepGoing : Bool) (t : Text) :
    LineResult.Ascending (check grammar keepGoing t).streamed := by
  cases h : grammar.tasks t with
  | error fault =>
    rw [check_of_fault h]
    exact .nil
  | ok tasks =>
    rw [check_of_tasks h, streamed_finish]
    have front := (prefix_streamed_ofTasks keepGoing tasks).map LineResult.line
    exact (Grammar.ascending_tasks h).sublist front.sublist

end Run

/-! ### Values -/

/-- A value that was handed on, with its line and the time that it took. -/
structure ShownValue where
  line : Nat
  value : Text
  duration : Duration

/-- How a value is written. -/
def ShownValue.pieces (quiet : Bool) (v : ShownValue) : List Piece :=
  if quiet then Report.plainLine v.value else Report.decoratedLine v.line v.value v.duration

/-- The values among timed results. -/
def Report.values (results : List TimedResult) : List ShownValue :=
  results.filterMap fun r => r.result.value?.map fun value => ⟨r.result.line, value, r.duration⟩

theorem Report.flatMap_valuePieces (quiet : Bool) (results : List TimedResult) :
    results.flatMap (valuePieces quiet) = (values results).flatMap (ShownValue.pieces quiet) := by
  induction results with
  | nil => rfl
  | cons r rest ih =>
    rw [List.flatMap_cons, ih, values, values, List.filterMap_cons, valuePieces]
    cases r.result.value? with
    | none => rfl
    | some value => rfl

namespace Program

/-- The values that a run hands on are the same however long they took. -/
theorem map_values_timed (lap : Nat → Duration) (results : List LineResult) :
    (Report.values (timed lap results)).map ShownValue.value = results.filterMap LineResult.value? := by
  have along (n : Nat) : (Report.values ((results.zipIdx n).map fun r => ⟨r.1, lap r.2⟩)).map
      ShownValue.value = results.filterMap LineResult.value? := by
    induction results generalizing n with
    | nil => rfl
    | cons r rest ih =>
      have later := ih (n + 1)
      rw [Report.values] at later ⊢
      rw [List.zipIdx_cons, List.map_cons, List.filterMap_cons, List.filterMap_cons]
      cases r.value? with
      | none => exact later
      | some value => exact congrArg (value :: ·) later
  exact along 0

end Program

/-! ### A silent log -/

/-- A fold that keeps its best or takes the next element ends with its first best or an element. -/
theorem LogFilter.mem_of_foldl {step : Option Directive → Directive → Option Directive}
    (choice : ∀ best next, step best next = best ∨ step best next = some next)
    {ds : List Directive} {best : Option Directive} {d : Directive}
    (h : ds.foldl step best = some d) : d ∈ ds ∨ best = some d := by
  induction ds generalizing best with
  | nil => exact .inr h
  | cons next rest ih =>
    rcases ih h with later | now
    · exact .inl (List.mem_cons_of_mem next later)
    · rcases choice best next with kept | taken
      · exact .inr (kept.symm.trans now)
      · cases taken.symm.trans now
        exact .inl List.mem_cons_self

theorem LogFilter.deciding?_mem {filter : LogFilter} {record : Record} {d : Directive}
    (h : filter.deciding? record = some d) : d ∈ filter := by
  refine (mem_of_foldl (fun best next => ?_) h).elim (fun inside => (List.mem_filter.mp inside).1)
    (fun none => by cases none)
  cases best with
  | none => exact .inr rfl
  | some b =>
    dsimp only
    split
    · exact .inl rfl
    · exact .inr rfl

/-- Directives that show no level show nothing. -/
theorem LogFilter.shows_of_off {filter : LogFilter} (h : ∀ d ∈ filter, d.shown = 0)
    (record : Record) : filter.shows record = false := by
  rw [shows]
  split
  · next d hd =>
    rw [h d (deciding?_mem hd)]
    cases record.level <;> rfl
  · rfl

namespace Program

/-- A text for the log filter that turns the log off: nothing is complained of and nothing shown. -/
structure Silent (logText : Text) : Prop where
  complaints : LogFilter.complaints logText = []
  shows : ∀ level record, (LogFilter.ofText level logText).shows record = false

theorem Silent.logged {logText : Text} (silent : Silent logText) (level : Level) (event : Event) :
    logged (LogFilter.ofText level logText) event = [] := by
  rw [Program.logged, silent.shows level]
  rfl

/-- Without a log nothing on the error channel depends on the clock. -/
theorem Silent.text_of_mem_err {logText : Text} (silent : Silent logText) {s : Settings}
    {lap : Nat → Duration} (fit : s.quiet = false → DurationsFit lap s.run) {piece : Piece}
    (h : piece ∈ written .err (check logText lap s).1) : ∃ t, piece = .text t := by
  have opened : opening logText s = [] := by
    rw [opening, silent.complaints, silent.logged]
    rfl
  rw [written_err_check fit, opened, written_nil, List.nil_append] at h
  rcases List.mem_append.mp h with h | h
  · obtain ⟨step, -, h⟩ := List.mem_flatMap.mp h
    cases step with
    | logged event =>
      rw [errorPieces, silent.logged] at h
      cases h
    | streamed r =>
      rw [errorPieces, Report.failurePieces] at h
      split at h
      · cases h
      · exact ⟨_, List.mem_singleton.mp h⟩
  · rw [closing] at h
    split at h
    · exact ⟨_, List.mem_singleton.mp h⟩
    · split at h
      · cases h
      · exact ⟨_, List.mem_singleton.mp h⟩

/-! ### Two runs -/

/-- **A quiet report leaves out decoration on the output channel and nothing else.** Take two
commands that differ in whether the report is quiet, on one input that can be read, with a sum of
the durations where one is asked for. Both end with the same status and write the same to the error
channel, which with the log off is text alone. The quiet one puts out the values of the results that
were handed on, in the order of their lines, each with a line feed. The other one puts out the same
values in the same order, each with its line and its duration; then, if the run returned, a summary
with the number of results that were parsed, the number of those that failed and the sum of the
durations, and nothing more if it did not return. -/
theorem quiet_changes_decoration {argv quietArgv : List Text} {arguments : Arguments} {input : Text}
    {read : Text → Except ReadFault Bytes}
    (accepted : Arguments.parse argv = .ok { arguments with quiet := false })
    (acceptedQuiet : Arguments.parse quietArgv = .ok { arguments with quiet := true })
    (readable : read arguments.input >>= decodeText = .ok input) {lap : Nat → Duration}
    (fit : DurationsFit lap (arguments.run input)) (quietLap : Nat → Duration) (logText : Text) :
    ∃ writes quietWrites status summary,
      run argv read logText lap = .ended writes status ∧
      run quietArgv read logText quietLap = .ended quietWrites status ∧
      written .err quietWrites = written .err writes ∧
      (Silent logText → ∀ piece ∈ written .err writes, ∃ t, piece = .text t) ∧
      LineResult.Ascending (arguments.run input).streamed ∧
      written .out quietWrites =
        ((arguments.run input).streamed.filterMap LineResult.value?).flatMap Report.plainLine ∧
      written .out writes =
        (Report.values (timed lap (arguments.run input).streamed)).flatMap
          (fun v => Report.decoratedLine v.line v.value v.duration) ++ summary ∧
      (Report.values (timed lap (arguments.run input).streamed)).map ShownValue.value =
        (arguments.run input).streamed.filterMap LineResult.value? ∧
      (∀ fault, (arguments.run input).outcome = .error fault → summary = []) ∧
      ∀ results, (arguments.run input).outcome = .ok results →
        ∃ parsed total, parsed + LineResult.failures results = results.length ∧
          Duration.total ((timed lap results).map TimedResult.duration) = some total ∧
          summary = [.text ("\n--- Summary ---\nLines: ".toList ++ Text.ofNat parsed ++
              " parsed, ".toList ++ Text.ofNat (LineResult.failures results) ++
              " failed\nTotal parse time: ".toList), .duration total,
            .text "\nElapsed wall-clock time: ".toList, .elapsed, .text "\n".toList] := by
  let loud := { arguments with quiet := false }.settings input
  let quiet := { arguments with quiet := true }.settings input
  have loudFit : loud.quiet = false → DurationsFit lap loud.run := fun _ => fit
  have quietFit : quiet.quiet = false → DurationsFit quietLap quiet.run := nofun
  have status : (check logText quietLap quiet).2 = (check logText lap loud).2 := by
    rw [check_eq quietFit, check_eq loudFit]
    rfl
  refine ⟨_, _, _, (summaryWrites false lap (arguments.run input)).flatMap Write.pieces,
    run_of_input accepted readable logText lap,
    status ▸ run_of_input acceptedQuiet readable logText quietLap, ?_, ?_, ?_, ?_, ?_, ?_, ?_, ?_⟩
  · rw [written_err_check quietFit, written_err_check loudFit]
    rfl
  · exact fun silent piece => silent.text_of_mem_err loudFit
  · exact Run.ascending_streamed _ _ _
  · have summary : summaryWrites quiet.quiet quietLap quiet.run = [] := summaryWrites_quiet _ _
    rw [written_out_check quietFit, Report.flatMap_valuePieces, summary, List.flatMap_nil,
      List.append_nil, ← map_values_timed quietLap, List.flatMap_map]
    rfl
  · rw [written_out_check loudFit, Report.flatMap_valuePieces]
    rfl
  · exact map_values_timed lap _
  · intro fault h
    rw [summaryWrites_of_fault h]
    rfl
  · exact fun results => exists_summary_of_results fit

/-- A check that keeps going after a failure, with a log for nothing in the program: the quiet report
is the value alone, the other one has its line, its duration and a summary. -/
theorem quiet_changes_decoration_of_failing_line :
    ∃ writes quietWrites status,
      run ["-k".toList, "-g".toList, "nodes".toList, "in".toList]
          (fun _ => .ok "A = (B, C)\nB = D\n".toUTF8.toList) "-=off".toList (fun _ => .zero) =
        .ended writes status ∧
      run ["-kq".toList, "-gnodes".toList, "in".toList]
          (fun _ => .ok "A = (B, C)\nB = D\n".toUTF8.toList) "-=off".toList (fun _ => .longest) =
        .ended quietWrites status ∧
      written .err quietWrites = written .err writes ∧
      (∀ piece ∈ written .err writes, ∃ t, piece = .text t) ∧
      written .out quietWrites = [.text "A -> (B, C)\n".toList] ∧
      written .out writes =
        [.text "Line 1: A -> (B, C) (parse: ".toList, .duration .zero, .text ")\n".toList,
          .text "\n--- Summary ---\nLines: 1 parsed, 1 failed\nTotal parse time: ".toList,
          .duration .zero, .text "\nElapsed wall-clock time: ".toList, .elapsed,
          .text "\n".toList] := by
  let arguments : Arguments := ⟨"in".toList, .nodes, true, false, 0⟩
  have outcome : (arguments.run "A = (B, C)\nB = D\n".toList).outcome =
      .ok [⟨1, .ok "A -> (B, C)".toList⟩, ⟨2, .error (.unexpectedCharacter ['('] ['D'])⟩] := by
    decide +kernel
  have fit : DurationsFit (fun _ => .zero) (arguments.run "A = (B, C)\nB = D\n".toList) := by
    intro results h
    cases outcome.symm.trans h
    exact ⟨.zero, by decide +kernel⟩
  have silent : Silent "-=off".toList := by
    have directives : LogFilter.directives "-=off".toList =
        [("-=off".toList, .ok { target := "-".toList, shown := 0 })] := by
      decide +kernel
    refine ⟨by rw [LogFilter.complaints, directives]; rfl, fun level record => ?_⟩
    rw [LogFilter.ofText, directives]
    exact LogFilter.shows_of_off (List.forall_mem_singleton.mpr rfl) record
  obtain ⟨writes, quietWrites, status, summary, loud, quiet, err, clockless, -, quietOut, out, -, -,
      summed⟩ :=
    @quiet_changes_decoration ["-k".toList, "-g".toList, "nodes".toList, "in".toList]
      ["-kq".toList, "-gnodes".toList, "in".toList] arguments "A = (B, C)\nB = D\n".toList
      (fun _ => .ok "A = (B, C)\nB = D\n".toUTF8.toList) (by decide +kernel) (by decide +kernel)
      (by decide +kernel) (fun _ => .zero) fit (fun _ => .longest) "-=off".toList
  obtain ⟨parsed, total, count, htotal, rfl⟩ := summed _ outcome
  obtain rfl : parsed = 1 := Nat.succ.inj count
  obtain rfl : total = .zero := (Option.some.inj htotal).symm
  refine ⟨writes, quietWrites, status, loud, quiet, err, clockless silent, ?_, ?_⟩
  · rw [quietOut]
    decide +kernel
  · rw [out]
    decide +kernel

end Program

end LineGrammar
