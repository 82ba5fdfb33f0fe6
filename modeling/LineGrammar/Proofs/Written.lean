import LineGrammar.Command.Program
import LineGrammar.Proofs.Trace

/-!
What the command writes, channel by channel. The output channel gets the values of the results and
the summary, the error channel gets everything else: complaints, the log, the failures and the last
words. So what depends on whether a report is quiet is on the output channel only, and the durations
of lines are as well.

* `Program.written_out_reported`, `Program.written_err_reported`: what is written of the steps.
* `Program.conclusion_eq`: what is written after a run, and the status.
* `Program.exists_summary_of_results`: the summary of a run that returned.
* `Program.run_of_input`: the command on an input that can be read.
-/

namespace LineGrammar

/-! ### Results -/

/-- The value of a result that has one. -/
def LineResult.value? (r : LineResult) : Option Text := r.answer.toOption

namespace Report

/-- A value on a line of its own. -/
def plainLine (value : Text) : List Piece := [.text (value ++ "\n".toList)]

/-- A value with the number of its line and the time that it took. -/
def decoratedLine (line : Nat) (value : Text) (duration : Duration) : List Piece :=
  [.text ("Line ".toList ++ Text.ofNat line ++ ": ".toList ++ value ++ " (parse: ".toList),
    .duration duration, .text ")\n".toList]

/-- What tells of a line that failed. -/
def failureLine (line : Nat) (error : ParseError) : List Piece :=
  [.text ("Line ".toList ++ Text.ofNat line ++ ": Error - ".toList ++ error.message ++ "\n".toList)]

/-- What a result adds to the output channel. -/
def valuePieces (quiet : Bool) (r : TimedResult) : List Piece :=
  match r.result.value? with
  | some value =>
    if quiet then plainLine value else decoratedLine r.result.line value r.duration
  | none => []

/-- What a result adds to the error channel. -/
def failurePieces (r : LineResult) : List Piece :=
  match r.answer with
  | .ok _ => []
  | .error error => failureLine r.line error

end Report

/-! ### Channels -/

namespace Program

/-- What is written to a channel, piece by piece. -/
def written (channel : Channel) (writes : List Write) : List Piece :=
  (writes.filter fun w => w.channel = channel).flatMap Write.pieces

theorem written_append (channel : Channel) (xs ys : List Write) :
    written channel (xs ++ ys) = written channel xs ++ written channel ys := by
  rw [written, List.filter_append, List.flatMap_append, written, written]

theorem written_nil (channel : Channel) : written channel [] = [] := rfl

theorem written_cons (channel : Channel) (w : Write) (ws : List Write) :
    written channel (w :: ws) = written channel [w] ++ written channel ws :=
  written_append channel [w] ws

/-- Writes to one channel leave the other one alone. -/
theorem written_of_channel {channel other : Channel} {writes : List Write}
    (h : ∀ w ∈ writes, w.channel = other) (apart : other ≠ channel) : written channel writes = [] := by
  have none : writes.filter (fun w => w.channel = channel) = [] := by
    refine List.filter_eq_nil_iff.mpr fun w hw same => ?_
    exact apart ((h w hw).symm.trans (of_decide_eq_true same))
  rw [written, none, List.flatMap_nil]

theorem written_out_result (quiet : Bool) (r : TimedResult) :
    written .out [Report.result quiet r] = Report.valuePieces quiet r := by
  obtain ⟨⟨line, answer⟩, duration⟩ := r
  cases answer with
  | ok value => cases quiet <;> rfl
  | error error => rfl

theorem written_err_result (quiet : Bool) (r : TimedResult) :
    written .err [Report.result quiet r] = Report.failurePieces r.result := by
  obtain ⟨⟨line, answer⟩, duration⟩ := r
  cases answer with
  | ok value => cases quiet <;> rfl
  | error error => rfl

variable (filter : LogFilter)

theorem channel_of_mem_logged {event : Event} {w : Write} (h : w ∈ logged filter event) :
    w.channel = .err := by
  rw [logged] at h
  split at h
  · rw [List.mem_singleton.mp h]
    rfl
  · cases h

theorem written_out_logged (event : Event) : written .out (logged filter event) = [] :=
  written_of_channel (fun _ => channel_of_mem_logged filter) nofun

/-! ### Steps -/

/-- What a step adds to the error channel. -/
def errorPieces : Step → List Piece
  | .logged event => written .err (logged filter event)
  | .streamed r => Report.failurePieces r

/-- The output channel gets the results that were handed on, in order. -/
theorem written_out_reported (quiet : Bool) (lap : Nat → Duration) (n : Nat) (steps : List Step) :
    written .out (reported filter quiet lap n steps) =
      ((steps.filterMap Run.streamed?).zipIdx n).flatMap fun r =>
        Report.valuePieces quiet ⟨r.1, lap r.2⟩ := by
  induction steps generalizing n with
  | nil => rfl
  | cons step rest ih =>
    cases step with
    | logged event =>
      rw [reported, written_append, written_out_logged, ih]
      rfl
    | streamed result =>
      rw [reported, written_cons, written_out_result, ih]
      rfl

/-- The error channel gets the same whether the report is quiet or not, and how long it took. -/
theorem written_err_reported (quiet : Bool) (lap : Nat → Duration) (n : Nat) (steps : List Step) :
    written .err (reported filter quiet lap n steps) = steps.flatMap (errorPieces filter) := by
  induction steps generalizing n with
  | nil => rfl
  | cons step rest ih =>
    cases step with
    | logged event =>
      rw [reported, written_append, ih, List.flatMap_cons]
      rfl
    | streamed result =>
      rw [reported, written_cons, written_err_result, ih, List.flatMap_cons]
      rfl

/-! ### After a run -/

theorem map_result_timed (lap : Nat → Duration) (results : List LineResult) :
    (timed lap results).map TimedResult.result = results := by
  rw [timed, List.map_map]
  exact List.zipIdx_map_fst 0 results

theorem length_timed (lap : Nat → Duration) (results : List LineResult) :
    (timed lap results).length = results.length := by
  rw [timed, List.length_map, List.length_zipIdx]

/-- The durations of the results that a run returns have a sum. -/
def DurationsFit (lap : Nat → Duration) (run : Run) : Prop :=
  ∀ results, run.outcome = .ok results →
    ∃ total, Duration.total ((timed lap results).map TimedResult.duration) = some total

/-- The summary that is written after a run whose durations have a sum. -/
def summaryWrites (quiet : Bool) (lap : Nat → Duration) (run : Run) : List Write :=
  match run.outcome with
  | .error _ => []
  | .ok results => (Report.summary quiet (timed lap results)).getD []

/-- The last words of a run whose durations have a sum, and the status. -/
def closing (run : Run) : List Write × Nat :=
  match run.outcome with
  | .error fault => ([lastWords fault], 1)
  | .ok results =>
    if LineResult.failures results = 0 then ([], 0)
    else ([lastWords (.failures (LineResult.failures results))], 1)

/-- The summary depends on whether the report is quiet, the last words and the status do not. A
quiet report adds up no durations. -/
theorem conclusion_eq {quiet : Bool} {lap : Nat → Duration} {run : Run}
    (fit : quiet = false → DurationsFit lap run) :
    conclusion quiet lap run =
      (summaryWrites quiet lap run ++ (closing run).1, (closing run).2) := by
  cases h : run.outcome with
  | error fault => simp only [conclusion, summaryWrites, closing, h, List.nil_append]
  | ok results =>
    have summary : ∃ ws, Report.summary quiet (timed lap results) = some ws := by
      cases quiet with
      | true => exact ⟨[], rfl⟩
      | false =>
        obtain ⟨total, htotal⟩ := fit rfl results h
        refine ⟨[Report.summaryOf (timed lap results) total], ?_⟩
        rw [Report.summary, htotal]
        rfl
    obtain ⟨ws, hws⟩ := summary
    simp only [conclusion, summaryWrites, closing, h, hws, Option.getD_some]
    cases LineResult.failures results <;> rfl

theorem summaryWrites_of_fault {run : Run} {fault : CheckFault} (h : run.outcome = .error fault)
    (quiet : Bool) (lap : Nat → Duration) : summaryWrites quiet lap run = [] := by
  rw [summaryWrites, h]

theorem summaryWrites_quiet (lap : Nat → Duration) (run : Run) : summaryWrites true lap run = [] := by
  rw [summaryWrites]
  cases run.outcome <;> rfl

theorem summaryWrites_of_results {run : Run} {results : List LineResult} {lap : Nat → Duration}
    {total : Duration} (h : run.outcome = .ok results)
    (htotal : Duration.total ((timed lap results).map TimedResult.duration) = some total) :
    summaryWrites false lap run = [Report.summaryOf (timed lap results) total] := by
  simp only [summaryWrites, h, Report.summary, htotal]
  rfl

/-- The summary of a run that returned counts the failures among its results, and all others as
parsed. -/
theorem exists_summary_of_results {run : Run} {results : List LineResult} {lap : Nat → Duration}
    (fit : DurationsFit lap run) (h : run.outcome = .ok results) :
    ∃ parsed total, parsed + LineResult.failures results = results.length ∧
      Duration.total ((timed lap results).map TimedResult.duration) = some total ∧
      (summaryWrites false lap run).flatMap Write.pieces =
        [.text ("\n--- Summary ---\nLines: ".toList ++ Text.ofNat parsed ++ " parsed, ".toList ++
            Text.ofNat (LineResult.failures results) ++ " failed\nTotal parse time: ".toList),
          .duration total, .text "\nElapsed wall-clock time: ".toList, .elapsed,
          .text "\n".toList] := by
  obtain ⟨total, htotal⟩ := fit results h
  have bound : LineResult.failures results ≤ results.length := List.countP_le_length
  refine ⟨results.length - LineResult.failures results, total, Nat.sub_add_cancel bound, htotal, ?_⟩
  rw [summaryWrites_of_results h htotal, Report.summaryOf, map_result_timed, length_timed]
  rfl

theorem channel_of_mem_summaryWrites {quiet : Bool} {lap : Nat → Duration} {run : Run} {w : Write}
    (h : w ∈ summaryWrites quiet lap run) : w.channel = .out := by
  rw [summaryWrites] at h
  split at h
  · cases h
  · next results _ =>
    cases quiet with
    | true => cases h
    | false =>
      rw [Report.summary, if_neg (by decide)] at h
      cases htotal : Duration.total ((timed lap results).map TimedResult.duration) with
      | none =>
        rw [htotal] at h
        cases h
      | some total =>
        rw [htotal] at h
        rw [List.mem_singleton.mp h]
        rfl

theorem channel_of_mem_closing {run : Run} {w : Write} (h : w ∈ (closing run).1) :
    w.channel = .err := by
  rw [closing] at h
  split at h
  · rw [List.mem_singleton.mp h]
    rfl
  · split at h
    · cases h
    · rw [List.mem_singleton.mp h]
      rfl

/-! ### The whole command -/

end Program

/-- The settings of arguments whose input has been read. -/
def Arguments.settings (arguments : Arguments) (input : Text) : Settings :=
  ⟨arguments.input, input, arguments.grammar, arguments.keepGoing, arguments.quiet,
    Level.ofVerbosity arguments.verbosity⟩

/-- The run that arguments ask for on an input. -/
def Arguments.run (arguments : Arguments) (input : Text) : Run :=
  Run.check arguments.grammar arguments.keepGoing input

/-- The run that the settings ask for. -/
def Settings.run (s : Settings) : Run := Run.check s.grammar s.keepGoing s.input

namespace Program

/-- What is written in front of the steps: complaints about the filter, and that the check
begins. -/
def opening (logText : Text) (s : Settings) : List Write :=
  (LogFilter.complaints logText).map (fun t => ⟨.err, [.text t]⟩) ++
    logged (LogFilter.ofText s.level logText) (.started s.path s.grammar s.keepGoing)

theorem channel_of_mem_opening {logText : Text} {s : Settings} {w : Write}
    (h : w ∈ opening logText s) : w.channel = .err := by
  rcases List.mem_append.mp h with h | h
  · obtain ⟨t, -, rfl⟩ := List.mem_map.mp h
    rfl
  · exact channel_of_mem_logged _ h

section Check

variable {logText : Text} {lap : Nat → Duration} {s : Settings}
  (fit : s.quiet = false → DurationsFit lap s.run)
include fit

theorem check_eq :
    check logText lap s =
      (opening logText s ++
          reported (LogFilter.ofText s.level logText) s.quiet lap 0 s.run.steps ++
          (summaryWrites s.quiet lap s.run ++ (closing s.run).1),
        (closing s.run).2) := by
  have concluded := conclusion_eq fit
  rw [Settings.run] at concluded ⊢
  rw [check, concluded]
  rfl

/-- The values of the results and the summary. -/
theorem written_out_check :
    written .out (check logText lap s).1 =
      (timed lap s.run.streamed).flatMap (Report.valuePieces s.quiet) ++
        (summaryWrites s.quiet lap s.run).flatMap Write.pieces := by
  have opened : written .out (opening logText s) = [] :=
    written_of_channel (fun _ => channel_of_mem_opening) nofun
  have closed : written .out (closing s.run).1 = [] :=
    written_of_channel (fun _ => channel_of_mem_closing) nofun
  have summary : (summaryWrites s.quiet lap s.run).filter (fun w => w.channel = .out) =
      summaryWrites s.quiet lap s.run :=
    List.filter_eq_self.mpr fun w hw => decide_eq_true (channel_of_mem_summaryWrites hw)
  rw [check_eq fit]
  simp only [written_append, opened, closed, written_out_reported, List.nil_append,
    List.append_nil, timed, List.flatMap_map, Run.streamed]
  rw [written, summary]

/-- The complaints, the log, the failures and the last words. -/
theorem written_err_check :
    written .err (check logText lap s).1 =
      written .err (opening logText s) ++
        s.run.steps.flatMap (errorPieces (LogFilter.ofText s.level logText)) ++
        written .err (closing s.run).1 := by
  have summary : written .err (summaryWrites s.quiet lap s.run) = [] :=
    written_of_channel (fun _ => channel_of_mem_summaryWrites) nofun
  rw [check_eq fit]
  simp only [written_append, summary, written_err_reported, List.nil_append]

end Check

/-- Arguments that are accepted and an input that is text lead to a check. -/
theorem run_of_input {argv : List Text} {arguments : Arguments} {input : Text}
    {read : Text → Except ReadFault Bytes} (accepted : Arguments.parse argv = .ok arguments)
    (readable : read arguments.input >>= decodeText = .ok input) (logText : Text)
    (lap : Nat → Duration) :
    run argv read logText lap =
      .ended (check logText lap (arguments.settings input)).1
        (check logText lap (arguments.settings input)).2 := by
  rw [run, accepted]
  simp only [Settings.load, readable]
  rfl

end Program

end LineGrammar
