import LineGrammar.Proofs.Success
import LineGrammar.Proofs.Written

/-!
One account of a run. Failures are counted for the log, for the summary and for the last words, and
each of them is told on the error channel as it comes. The status follows from how the run ended: a
strict run ends with its first failure, one that keeps going returns and is then found to hold
failures. All of these agree.

* `Run.ofTasks_of_outcome`: tasks answered to the end are all recorded, whatever the policy.
* `Program.filter_begins_reported`: what is told of results, by its first word.
* `Program.one_account`: the results, the log, the counts and the status.
-/

namespace LineGrammar

/-! ### What is told of the results -/

/-- The line of the log about a result. -/
def LineResult.record (r : LineResult) : Record :=
  match r.answer with
  | .ok value =>
    ⟨.debug, Event.checkTarget, "parsed line".toList,
      [("line".toList, Text.ofNat r.line), ("value".toList, value)]⟩
  | .error error =>
    ⟨.warn, Event.checkTarget, "line failed to parse".toList,
      [("line".toList, Text.ofNat r.line), ("error".toList, error.message)]⟩

theorem LineResult.record_event (r : LineResult) : r.event.record = r.record := by
  rw [event, record]
  cases r.answer <;> rfl

/-- The line of the log about the end of a run. -/
def Record.ofEnd (results : List LineResult) : Record :=
  ⟨.info, Event.checkTarget, "finished parsing".toList,
    [("lines".toList, Text.ofNat results.length),
      ("failed".toList, Text.ofNat (LineResult.failures results))]⟩

/-- The message about a result that is a failure. -/
def Report.failureWrite? (r : LineResult) : Option Write :=
  match r.answer with
  | .ok _ => none
  | .error error => some ⟨.err, failureLine r.line error⟩

/-- There are as many messages as failures. -/
theorem Report.length_failureWrites (results : List LineResult) :
    (results.filterMap failureWrite?).length = LineResult.failures results := by
  induction results with
  | nil => rfl
  | cons r rest ih =>
    rw [LineResult.failures] at ih ⊢
    rw [List.filterMap_cons, List.countP_cons, failureWrite?, LineResult.isFailure]
    cases r.answer with
    | ok value => exact ih
    | error cause => exact congrArg (· + 1) ih

theorem LineResult.failures_eq_zero_iff {results : List LineResult} :
    failures results = 0 ↔ ∀ r ∈ results, r.isFailure = false := by
  rw [failures, List.countP_eq_zero]
  simp only [Bool.not_eq_true]

/-! ### Runs that return -/

namespace Run

/-- Tasks answered to the end are all recorded. A strict run gets there as well as one that keeps
going, but only if nothing fails. -/
theorem ofTasks_of_outcome {keepGoing : Bool} {tasks : List Task} {results : List LineResult}
    (h : (ofTasks keepGoing tasks).outcome = .ok results) :
    ofTasks keepGoing tasks = recordAll results ⟨[], .ok []⟩ := by
  induction tasks generalizing results with
  | nil =>
    cases h
    rfl
  | cons task rest ih =>
    rw [ofTasks] at h ⊢
    cases hanswer : task.answer with
    | ok value =>
      rw [hanswer] at h
      obtain ⟨others, hrest, rfl⟩ := outcome_record_eq_ok h
      rw [ih hrest]
      rfl
    | error cause =>
      rw [hanswer] at h
      cases keepGoing with
      | false => cases h
      | true =>
        obtain ⟨others, hrest, rfl⟩ := outcome_record_eq_ok h
        rw [ih hrest]
        rfl

/-- A run that returns has handed on what it returns, and logged each result and the end. -/
theorem account_of_outcome {grammar : Grammar} {keepGoing : Bool} {t : Text}
    {results : List LineResult} (h : (check grammar keepGoing t).outcome = .ok results) :
    (check grammar keepGoing t).streamed = results ∧
      (check grammar keepGoing t).log.map Event.record =
        results.map LineResult.record ++ [Record.ofEnd results] := by
  obtain ⟨tasks, htasks, -⟩ := tasks_of_outcome h
  rw [check_of_tasks htasks] at h ⊢
  have answered : (ofTasks keepGoing tasks).outcome = .ok results := outcome_finish _ ▸ h
  have recorded := ofTasks_of_outcome answered
  constructor
  · rw [streamed_finish, recorded, streamed_recordAll]
    exact List.append_nil _
  · have events : (recordAll results ⟨[], .ok []⟩).log = results.map LineResult.event := by
      rw [log_recordAll]
      exact List.append_nil _
    rw [log_finish_of_ok answered, recorded, events, List.map_append, List.map_map]
    refine congrArg (· ++ _) (List.map_congr_left fun r _ => ?_)
    exact r.record_event

/-- Whether a check succeeds depends on its tasks only. -/
theorem succeeds_iff {grammar : Grammar} {keepGoing : Bool} {t : Text} :
    (∃ results, (check grammar keepGoing t).Succeeds results) ↔
      ∃ tasks, grammar.tasks t = .ok tasks ∧ ∀ task ∈ tasks, task.result.isFailure = false := by
  constructor
  · rintro ⟨results, h⟩
    obtain ⟨tasks, htasks, -, success⟩ := h.tasks
    exact ⟨tasks, htasks, success⟩
  · rintro ⟨tasks, htasks, success⟩
    have same : check grammar keepGoing t = check grammar true t := by
      cases keepGoing with
      | false => exact check_strict_of_success htasks success
      | true => rfl
    refine ⟨tasks.map Task.result, ?_, fun r hr => ?_⟩
    · rw [same]
      exact outcome_keepGoing htasks
    · obtain ⟨task, htask, rfl⟩ := List.mem_map.mp hr
      exact success task htask

end Run

namespace Program

/-! ### The status -/

theorem status_closing (run : Run) : (closing run).2 = 0 ∨ (closing run).2 = 1 := by
  rw [closing]
  split
  · exact .inr rfl
  · split
    · exact .inl rfl
    · exact .inr rfl

/-- The last words of a command that has failures to tell of. -/
theorem lastWords_failures (count : Nat) :
    lastWords (.failures count) = ⟨.err, [.text ("Error: ".toList ++ Text.ofNat count ++
      " line(s) failed to parse".toList ++ "\n".toList)]⟩ := by
  have message : (CheckFault.failures count).message =
      Text.ofNat count ++ " line(s) failed to parse".toList := rfl
  rw [lastWords, message, ← List.append_assoc]

theorem closing_of_results {run : Run} {results : List LineResult} (h : run.outcome = .ok results) :
    closing run = if LineResult.failures results = 0 then ([], 0)
      else ([lastWords (.failures (LineResult.failures results))], 1) := by
  rw [closing, h]

/-- The status of a run tells whether it succeeded. -/
theorem status_closing_eq_zero_iff {run : Run} :
    (closing run).2 = 0 ↔ ∃ results, run.Succeeds results := by
  cases h : run.outcome with
  | error fault =>
    constructor
    · intro status
      rw [closing, h] at status
      cases status
    · rintro ⟨results, returned, -⟩
      cases h.symm.trans returned
  | ok results =>
    have alone : (∃ others, run.Succeeds others) ↔ LineResult.failures results = 0 := by
      rw [LineResult.failures_eq_zero_iff]
      constructor
      · rintro ⟨others, returned, success⟩
        cases h.symm.trans returned
        exact success
      · exact fun success => ⟨results, h, success⟩
    rw [alone, closing_of_results h]
    by_cases none : LineResult.failures results = 0
    · rw [if_pos none]
      exact ⟨fun _ => none, fun _ => rfl⟩
    · rw [if_neg none]
      exact ⟨fun one => absurd one Nat.one_ne_zero, fun h => absurd h none⟩

/-- The status is the same for both policies. -/
theorem status_closing_check (grammar : Grammar) (t : Text) (keepGoing : Bool) :
    (closing (Run.check grammar keepGoing t)).2 = (closing (Run.check grammar true t)).2 := by
  have same : (closing (Run.check grammar keepGoing t)).2 = 0 ↔
      (closing (Run.check grammar true t)).2 = 0 := by
    rw [status_closing_eq_zero_iff, status_closing_eq_zero_iff, Run.succeeds_iff, Run.succeeds_iff]
  have left := status_closing (Run.check grammar keepGoing t)
  have right := status_closing (Run.check grammar true t)
  omega

/-! ### Messages by their first word -/

end Program

/-- Whether a message on the error channel begins with a text. A line of the log does not, since a
time stamp stands in front of it. -/
def Write.begins (front : Text) (w : Write) : Bool :=
  match w.channel, w.pieces with
  | .err, [.text t] => front.isPrefixOf t
  | _, _ => false

namespace Program

/-- The first word of a message about a failure. -/
def failureWord : Text := "Line ".toList

/-- The first word of the last words. -/
def lastWord : Text := "Error: ".toList

theorem filter_begins_of_out (front : Text) {writes : List Write}
    (h : ∀ w ∈ writes, w.channel = .out) : writes.filter (Write.begins front) = [] := by
  refine List.filter_eq_nil_iff.mpr fun w hw => ?_
  rw [Write.begins, h w hw]
  nofun

theorem filter_begins_logged (front : Text) (filter : LogFilter) (event : Event) :
    (logged filter event).filter (Write.begins front) = [] := by
  rw [logged]
  split
  · rfl
  · rfl

/-- Of the complaints and the log none begins like a message about a failure or like the last
words. -/
theorem filter_begins_opening {front : Text} (h : front = failureWord ∨ front = lastWord)
    (logText : Text) (s : Settings) : (opening logText s).filter (Write.begins front) = [] := by
  rw [opening, List.filter_append, filter_begins_logged, List.append_nil]
  refine List.filter_eq_nil_iff.mpr fun w hw => ?_
  obtain ⟨complaint, hcomplaint, rfl⟩ := List.mem_map.mp hw
  obtain ⟨⟨directive, answer⟩, -, hd⟩ := List.mem_filterMap.mp hcomplaint
  cases answer with
  | ok accepted => cases hd
  | error fault =>
    cases hd
    rcases h with rfl | rfl <;> exact nofun

/-- Of the results that were handed on, the failures alone are told on the error channel. -/
theorem filter_begins_reported (front : Text) (filter : LogFilter) (quiet : Bool)
    (lap : Nat → Duration) (n : Nat) (steps : List Step) :
    (reported filter quiet lap n steps).filter (Write.begins front) =
      ((steps.filterMap Run.streamed?).filterMap Report.failureWrite?).filter
        (Write.begins front) := by
  induction steps generalizing n with
  | nil => rfl
  | cons step rest ih =>
    cases step with
    | logged event =>
      rw [reported, List.filter_append, filter_begins_logged, ih]
      rfl
    | streamed result =>
      obtain ⟨line, answer⟩ := result
      have later := ih (n + 1)
      cases answer with
      | ok value => cases quiet <;> exact later
      | error cause =>
        rw [reported, List.filter_cons, later]
        exact List.filter_cons.symm

/-- A message about a failure begins with its own word, and not like last words. -/
theorem begins_failureWrite {results : List LineResult} {w : Write}
    (h : w ∈ results.filterMap Report.failureWrite?) :
    w.begins failureWord = true ∧ w.begins lastWord = false := by
  obtain ⟨⟨line, answer⟩, -, hr⟩ := List.mem_filterMap.mp h
  cases answer with
  | ok value => cases hr
  | error cause =>
    cases hr
    exact ⟨rfl, rfl⟩

theorem filter_failureWord_failureWrites (results : List LineResult) :
    (results.filterMap Report.failureWrite?).filter (Write.begins failureWord) =
      results.filterMap Report.failureWrite? :=
  List.filter_eq_self.mpr fun _ hw => (begins_failureWrite hw).1

theorem filter_lastWord_failureWrites (results : List LineResult) :
    (results.filterMap Report.failureWrite?).filter (Write.begins lastWord) = [] :=
  List.filter_eq_nil_iff.mpr fun _ hw => Bool.eq_false_iff.mp (begins_failureWrite hw).2

theorem filter_failureWord_closing (run : Run) :
    (closing run).1.filter (Write.begins failureWord) = [] := by
  rw [closing]
  split
  · rfl
  · split
    · rfl
    · rfl

theorem filter_lastWord_closing (run : Run) :
    (closing run).1.filter (Write.begins lastWord) = (closing run).1 := by
  rw [closing]
  split
  · rfl
  · split
    · rfl
    · rfl

section Check

variable {logText : Text} {lap : Nat → Duration} {s : Settings}
  (fit : s.quiet = false → DurationsFit lap s.run)
include fit

/-- Every message about a failure is that of a result that was handed on. -/
theorem filter_failureWord_check :
    (check logText lap s).1.filter (Write.begins failureWord) =
      s.run.streamed.filterMap Report.failureWrite? := by
  have summary := filter_begins_of_out failureWord
    fun w (h : w ∈ summaryWrites s.quiet lap s.run) => channel_of_mem_summaryWrites h
  rw [check_eq fit]
  simp only [List.filter_append, filter_begins_opening (.inl rfl), filter_begins_reported,
    filter_failureWord_failureWrites, summary, filter_failureWord_closing, List.nil_append,
    List.append_nil]
  rfl

/-- The last words come from the end of the run alone. -/
theorem filter_lastWord_check :
    (check logText lap s).1.filter (Write.begins lastWord) = (closing s.run).1 := by
  have summary := filter_begins_of_out lastWord
    fun w (h : w ∈ summaryWrites s.quiet lap s.run) => channel_of_mem_summaryWrites h
  rw [check_eq fit]
  simp only [List.filter_append, filter_begins_opening (.inr rfl), filter_begins_reported,
    filter_lastWord_failureWrites, summary, filter_lastWord_closing, List.nil_append]

end Check

/-! ### The account -/

/-- How the writes of a command account for the results of its run. -/
structure Accounts (quiet : Bool) (lap : Nat → Duration) (results : List LineResult)
    (writes : List Write) : Prop where
  /-- The messages about failures are those of the results, in order. -/
  messages : writes.filter (Write.begins failureWord) = results.filterMap Report.failureWrite?
  /-- There is one of them for each failure. -/
  count : (writes.filter (Write.begins failureWord)).length = LineResult.failures results
  /-- The summary counts the same failures, and the other results as parsed. -/
  summary : quiet = false → ∃ parsed total,
    parsed + LineResult.failures results = results.length ∧
    Duration.total ((timed lap results).map TimedResult.duration) = some total ∧
    written .out writes = (timed lap results).flatMap (Report.valuePieces quiet) ++
      [.text ("\n--- Summary ---\nLines: ".toList ++ Text.ofNat parsed ++ " parsed, ".toList ++
          Text.ofNat (LineResult.failures results) ++ " failed\nTotal parse time: ".toList),
        .duration total, .text "\nElapsed wall-clock time: ".toList, .elapsed, .text "\n".toList]
  /-- The last words count the same failures, and there are none without a failure. -/
  lastWords : writes.filter (Write.begins lastWord) =
    if LineResult.failures results = 0 then []
    else [⟨.err, [.text ("Error: ".toList ++ Text.ofNat (LineResult.failures results) ++
      " line(s) failed to parse".toList ++ "\n".toList)]⟩]

/-- The writes of a check whose run returns. -/
theorem accounts_check {logText : Text} {lap : Nat → Duration} {s : Settings}
    (fit : s.quiet = false → DurationsFit lap s.run) {results : List LineResult}
    (h : s.run.outcome = .ok results) : Accounts s.quiet lap results (check logText lap s).1 := by
  have streamed : s.run.streamed = results := (Run.account_of_outcome h).1
  have messages : (check logText lap s).1.filter (Write.begins failureWord) =
      results.filterMap Report.failureWrite? := by
    rw [filter_failureWord_check fit, streamed]
  refine ⟨messages, ?_, fun loud => ?_, ?_⟩
  · rw [messages, Report.length_failureWrites]
  · obtain ⟨parsed, total, count, htotal, summary⟩ := exists_summary_of_results (fit loud) h
    refine ⟨parsed, total, count, htotal, ?_⟩
    rw [written_out_check fit, streamed, loud, summary]
  · rw [filter_lastWord_check fit, closing_of_results h]
    split
    · rfl
    · rw [lastWords_failures]

/-- **There is one account of a run.** A check that returns, strict or not, has handed on exactly the
results that it returns, in order; its log is a line for each of them, with the value of a success
and the wording of a failure, and then one line with the number of results and that of failures. The
messages about failures, the summary and the last words of the command count the same failures. For
a text and a grammar there is one status, 0 or 1, with which every command ends that reads them,
whatever its other arguments and its log: it is 0 exactly when the check succeeds, and strict checks
succeed when those that keep going do. -/
theorem one_account (grammar : Grammar) (t : Text) :
    (∀ keepGoing results, (Run.check grammar keepGoing t).outcome = .ok results →
      (Run.check grammar keepGoing t).streamed = results ∧
      (Run.check grammar keepGoing t).log.map Event.record =
        results.map LineResult.record ++ [Record.ofEnd results]) ∧
    ∃ status, (status = 0 ∨ status = 1) ∧
      (∀ keepGoing,
        status = 0 ↔ ∃ results, (Run.check grammar keepGoing t).Succeeds results) ∧
      ∀ argv arguments read logText lap, Arguments.parse argv = .ok arguments →
        arguments.grammar = grammar → read arguments.input >>= decodeText = .ok t →
        (arguments.quiet = false → DurationsFit lap (arguments.run t)) →
        ∃ writes, run argv read logText lap = .ended writes status ∧
          ∀ results, (arguments.run t).outcome = .ok results →
            Accounts arguments.quiet lap results writes := by
  refine ⟨fun keepGoing results => Run.account_of_outcome,
    (closing (Run.check grammar true t)).2, status_closing _, fun keepGoing => ?_, ?_⟩
  · rw [← status_closing_check grammar t keepGoing, status_closing_eq_zero_iff]
  · intro argv arguments read logText lap accepted hgrammar readable fit
    have checked : (arguments.settings t).quiet = false →
        DurationsFit lap (arguments.settings t).run := fit
    have status : (check logText lap (arguments.settings t)).2 =
        (closing (Run.check grammar true t)).2 := by
      rw [check_eq checked, ← status_closing_check grammar t arguments.keepGoing, ← hgrammar]
      rfl
    refine ⟨(check logText lap (arguments.settings t)).1, ?_, fun results h => ?_⟩
    · rw [run_of_input accepted readable, status]
    · exact accounts_check checked h

/-- A file with a failing line: the strict command and one that keeps going and is quiet both end
with status 1, and the second tells of one failure, once when it comes and once at the end. -/
theorem one_account_of_failing_line :
    ∃ status writes quietWrites,
      run ["-g".toList, "nodes".toList, "in".toList]
          (fun _ => .ok "A = (B, C)\nB = D\n".toUTF8.toList) [] (fun _ => .zero) =
        .ended writes status ∧
      run ["-kqgnodes".toList, "in".toList]
          (fun _ => .ok "A = (B, C)\nB = D\n".toUTF8.toList) [] (fun _ => .longest) =
        .ended quietWrites status ∧
      status = 1 ∧ (quietWrites.filter (Write.begins failureWord)).length = 1 ∧
      quietWrites.filter (Write.begins lastWord) =
        [⟨.err, [.text "Error: 1 line(s) failed to parse\n".toList]⟩] := by
  have outcome : (Run.check .nodes true "A = (B, C)\nB = D\n".toList).outcome =
      .ok [⟨1, .ok "A -> (B, C)".toList⟩, ⟨2, .error (.unexpectedCharacter ['('] ['D'])⟩] := by
    decide +kernel
  have strict : (Run.check .nodes false "A = (B, C)\nB = D\n".toList).outcome =
      .error (.line 2 (.unexpectedCharacter ['('] ['D'])) := by
    decide +kernel
  obtain ⟨-, status, range, success, commands⟩ := one_account .nodes "A = (B, C)\nB = D\n".toList
  obtain ⟨writes, ended, -⟩ := commands ["-g".toList, "nodes".toList, "in".toList]
    ⟨"in".toList, .nodes, false, false, 0⟩ (fun _ => .ok "A = (B, C)\nB = D\n".toUTF8.toList) []
    (fun _ => .zero) (by decide +kernel) rfl (by decide +kernel)
    (fun _ results h => nomatch strict.symm.trans h)
  obtain ⟨quietWrites, endedQuiet, accounts⟩ := commands ["-kqgnodes".toList, "in".toList]
    ⟨"in".toList, .nodes, true, true, 0⟩ (fun _ => .ok "A = (B, C)\nB = D\n".toUTF8.toList) []
    (fun _ => .longest) (by decide +kernel) rfl (by decide +kernel) nofun
  have told := accounts _ outcome
  refine ⟨status, writes, quietWrites, ended, endedQuiet, ?_, told.count,
    told.lastWords.trans (by decide +kernel)⟩
  refine range.resolve_left fun zero => ?_
  obtain ⟨results, returned, none⟩ := (success true).mp zero
  cases outcome.symm.trans returned
  exact absurd (none _ (List.mem_cons_of_mem _ List.mem_cons_self)) (by decide)

end Program

end LineGrammar
