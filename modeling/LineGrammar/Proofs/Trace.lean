import LineGrammar.Check.Run

/-!
What a run does. A run that keeps going answers every task, and its trace is the list of the
answers: each is logged and handed on, and the end is logged. A strict run follows the same trace
until the first failure and ends there with that failure as its fault.

* `Run.streamed_keepGoing`, `Run.outcome_keepGoing`, `Run.log_keepGoing`: the account of a run
  that keeps going.
* `Run.strict_follows_keepGoing`: the two policies agree up to the first failure.
-/

namespace LineGrammar

/-- The result that answering the task gives. -/
def Task.result (task : Task) : LineResult := ⟨task.line, task.answer⟩

theorem LineResult.isFailure_eq_false_iff {r : LineResult} :
    r.isFailure = false ↔ ∃ value, r.answer = .ok value := by
  rw [isFailure]
  cases r.answer with
  | ok value => exact ⟨fun _ => ⟨value, rfl⟩, fun _ => rfl⟩
  | error cause =>
    constructor
    · intro h
      cases h
    · rintro ⟨value, h⟩
      cases h

/-- A success is told to those who follow every line only. -/
theorem LineResult.level_event {r : LineResult} (h : r.isFailure = false) :
    r.event.record.level = .debug := by
  obtain ⟨value, hvalue⟩ := isFailure_eq_false_iff.mp h
  rw [event, hvalue]
  rfl

/-- A text has tasks unless its node section is missing. -/
theorem Grammar.tasks_eq_error {grammar : Grammar} {t : Text} {fault : CheckFault}
    (h : grammar.tasks t = .error fault) : fault = .missingSection "node".toList := by
  cases grammar with
  | directions | nodes => cases h
  | network =>
    rw [tasks] at h
    split at h
    · cases h
      rfl
    · cases h

namespace Run

/-! ### Results in front of a run -/

/-- The run with results in front, each of them logged and handed on. -/
def recordAll (results : List LineResult) (later : Run) : Run := results.foldr record later

theorem steps_recordAll (results : List LineResult) (later : Run) :
    (recordAll results later).steps =
      (results.flatMap fun r => [.logged r.event, .streamed r]) ++ later.steps := by
  induction results with
  | nil => rfl
  | cons r rest ih =>
    show .logged r.event :: .streamed r :: (recordAll rest later).steps = _
    rw [ih]
    rfl

theorem streamed_recordAll (results : List LineResult) (later : Run) :
    (recordAll results later).streamed = results ++ later.streamed := by
  induction results with
  | nil => rfl
  | cons r rest ih => exact congrArg (r :: ·) ih

theorem log_recordAll (results : List LineResult) (later : Run) :
    (recordAll results later).log = results.map LineResult.event ++ later.log := by
  induction results with
  | nil => rfl
  | cons r rest ih => exact congrArg (r.event :: ·) ih

theorem outcome_recordAll (results : List LineResult) (later : Run) :
    (recordAll results later).outcome = later.outcome.map (results ++ ·) := by
  induction results with
  | nil => exact (congrFun Except.map_id _).symm
  | cons r rest ih =>
    show (recordAll rest later).outcome.map (r :: ·) = _
    rw [ih]
    cases later.outcome <;> rfl

/-! ### The end of a run -/

theorem outcome_finish (run : Run) : run.finish.outcome = run.outcome := by
  rw [finish]
  split <;> rfl

theorem streamed_finish (run : Run) : run.finish.streamed = run.streamed := by
  rw [finish]
  split
  · rw [streamed, List.filterMap_append]
    exact List.append_nil _
  · rfl

theorem steps_finish_of_ok {run : Run} {results : List LineResult} (h : run.outcome = .ok results) :
    run.finish.steps =
      run.steps ++ [.logged (.finished results.length (LineResult.failures results))] := by
  rw [finish, h]

theorem log_finish_of_ok {run : Run} {results : List LineResult} (h : run.outcome = .ok results) :
    run.finish.log = run.log ++ [.finished results.length (LineResult.failures results)] := by
  rw [log, steps_finish_of_ok h, List.filterMap_append]
  rfl

theorem finish_of_error {run : Run} {fault : CheckFault} (h : run.outcome = .error fault) :
    run.finish = run := by
  rw [finish, h]

/-! ### Answering tasks -/

/-- Tasks that succeed are recorded, whether the run is strict or keeps going. -/
theorem ofTasks_append_of_success (keepGoing : Bool) {before : List Task}
    (success : ∀ task ∈ before, task.result.isFailure = false) (rest : List Task) :
    ofTasks keepGoing (before ++ rest) =
      recordAll (before.map Task.result) (ofTasks keepGoing rest) := by
  induction before with
  | nil => rfl
  | cons task later ih =>
    obtain ⟨value, hvalue⟩ := LineResult.isFailure_eq_false_iff.mp (success task List.mem_cons_self)
    have hlater := ih fun other h => success other (List.mem_cons_of_mem _ h)
    have hanswer : task.answer = .ok value := hvalue
    rw [List.cons_append, ofTasks, hanswer, hlater]
    show record _ _ = record ⟨task.line, task.answer⟩ _
    rw [hanswer]
    rfl

/-- A run that keeps going records every task. -/
theorem ofTasks_keepGoing (tasks : List Task) :
    ofTasks true tasks = recordAll (tasks.map Task.result) ⟨[], .ok []⟩ := by
  induction tasks with
  | nil => rfl
  | cons task rest ih =>
    show ofTasks true (task :: rest) = record ⟨task.line, task.answer⟩ _
    rw [ofTasks, ih]
    cases task.answer <;> rfl

/-- A strict run ends at a task that fails, before anything is recorded of it. -/
theorem ofTasks_strict_of_failure {task : Task} {cause : ParseError}
    (h : task.answer = .error cause) (rest : List Task) :
    ofTasks false (task :: rest) = ⟨[], .error (.line task.line cause)⟩ := by
  rw [ofTasks, h]
  rfl

/-! ### A check that keeps going -/

section KeepGoing

variable {grammar : Grammar} {t : Text} {tasks : List Task}

theorem check_of_tasks (h : grammar.tasks t = .ok tasks) (keepGoing : Bool) :
    check grammar keepGoing t = (ofTasks keepGoing tasks).finish := by
  rw [check, h]

/-- Without tasks nothing happens, whatever the policy. -/
theorem check_of_fault {fault : CheckFault} (h : grammar.tasks t = .error fault)
    (keepGoing : Bool) : check grammar keepGoing t = ⟨[], .error fault⟩ := by
  rw [check, h]

theorem outcome_ofTasks_keepGoing (tasks : List Task) :
    (ofTasks true tasks).outcome = .ok (tasks.map Task.result) := by
  rw [ofTasks_keepGoing, outcome_recordAll]
  exact congrArg Except.ok (List.append_nil _)

theorem outcome_keepGoing (h : grammar.tasks t = .ok tasks) :
    (check grammar true t).outcome = .ok (tasks.map Task.result) := by
  rw [check_of_tasks h, outcome_finish, outcome_ofTasks_keepGoing]

theorem streamed_keepGoing (h : grammar.tasks t = .ok tasks) :
    (check grammar true t).streamed = tasks.map Task.result := by
  rw [check_of_tasks h, streamed_finish, ofTasks_keepGoing, streamed_recordAll]
  exact List.append_nil _

theorem steps_keepGoing (h : grammar.tasks t = .ok tasks) :
    (check grammar true t).steps =
      ((tasks.map Task.result).flatMap fun r => [.logged r.event, .streamed r]) ++
        [.logged (.finished tasks.length (LineResult.failures (tasks.map Task.result)))] := by
  rw [check_of_tasks h, steps_finish_of_ok (outcome_ofTasks_keepGoing tasks), ofTasks_keepGoing,
    steps_recordAll, List.append_nil, List.length_map]

theorem log_keepGoing (h : grammar.tasks t = .ok tasks) :
    (check grammar true t).log = (tasks.map Task.result).map LineResult.event ++
      [.finished tasks.length (LineResult.failures (tasks.map Task.result))] := by
  rw [check_of_tasks h, log_finish_of_ok (outcome_ofTasks_keepGoing tasks), ofTasks_keepGoing,
    log_recordAll, List.length_map]
  exact congrArg (· ++ _) (List.append_nil _)

end KeepGoing

/-! ### Checks that return -/

theorem outcome_record_eq_ok {r : LineResult} {later : Run} {results : List LineResult}
    (h : (record r later).outcome = .ok results) :
    ∃ others, later.outcome = .ok others ∧ results = r :: others := by
  cases hlater : later.outcome with
  | error fault =>
    rw [record, hlater] at h
    cases h
  | ok others =>
    rw [record, hlater] at h
    cases h
    exact ⟨others, rfl, rfl⟩

/-- Tasks answered to the end give all their results, whatever the policy. -/
theorem outcome_ofTasks_eq_ok {keepGoing : Bool} {tasks : List Task} {results : List LineResult}
    (h : (ofTasks keepGoing tasks).outcome = .ok results) : results = tasks.map Task.result := by
  induction tasks generalizing results with
  | nil =>
    cases h
    rfl
  | cons task rest ih =>
    rw [ofTasks] at h
    split at h
    · next value hanswer =>
      obtain ⟨others, hrest, rfl⟩ := outcome_record_eq_ok h
      rw [ih hrest, List.map_cons, Task.result, hanswer]
    · next cause hanswer =>
      split at h
      · obtain ⟨others, hrest, rfl⟩ := outcome_record_eq_ok h
        rw [ih hrest, List.map_cons, Task.result, hanswer]
      · cases h

/-- A check that returns has answered every task of its text. -/
theorem tasks_of_outcome {grammar : Grammar} {keepGoing : Bool} {t : Text}
    {results : List LineResult} (h : (check grammar keepGoing t).outcome = .ok results) :
    ∃ tasks, grammar.tasks t = .ok tasks ∧ results = tasks.map Task.result := by
  cases htasks : grammar.tasks t with
  | error fault =>
    rw [check_of_fault htasks] at h
    cases h
  | ok tasks =>
    rw [check_of_tasks htasks, outcome_finish] at h
    exact ⟨tasks, rfl, outcome_ofTasks_eq_ok h⟩

/-! ### Strict checks -/

/-- Where nothing fails the policy makes no difference. -/
theorem check_strict_of_success {grammar : Grammar} {t : Text} {tasks : List Task}
    (h : grammar.tasks t = .ok tasks)
    (success : ∀ task ∈ tasks, task.result.isFailure = false) :
    check grammar false t = check grammar true t := by
  have same (keepGoing : Bool) :
      ofTasks keepGoing tasks = recordAll (tasks.map Task.result) ⟨[], .ok []⟩ := by
    have := ofTasks_append_of_success keepGoing success []
    rwa [List.append_nil] at this
  rw [check_of_tasks h, check_of_tasks h, same false, same true]

/-- A strict check whose first failure is known: everything in front of it is recorded, and the
check ends with it. -/
theorem check_strict_of_failure {grammar : Grammar} {t : Text} {before later : List Task}
    {task : Task} {cause : ParseError} (h : grammar.tasks t = .ok (before ++ task :: later))
    (success : ∀ task ∈ before, task.result.isFailure = false)
    (failure : task.answer = .error cause) :
    check grammar false t =
      recordAll (before.map Task.result) ⟨[], .error (.line task.line cause)⟩ := by
  rw [check_of_tasks h, ofTasks_append_of_success false success, ofTasks_strict_of_failure failure,
    finish_of_error]
  rw [outcome_recordAll]
  rfl

/-- **A strict check agrees with one that keeps going up to the first failure.** If the one that
keeps going ends for want of a section, so does the strict one, and nothing happens in either.
Otherwise it returns all that it handed on. If none of these results failed, the strict check is
the same run. If there is a first failure, the strict check hands on exactly what stands before
it, ends with its line and cause, and logs what the other one logged of the results before it,
in the same order of events and results: no warning and no end. -/
theorem strict_follows_keepGoing (grammar : Grammar) (t : Text) :
    (∀ name, (check grammar true t).outcome = .error (.missingSection name) →
      (check grammar false t).outcome = .error (.missingSection name) ∧
        (check grammar true t).steps = [] ∧ (check grammar false t).steps = []) ∧
    ((∀ name, (check grammar true t).outcome ≠ .error (.missingSection name)) →
      (check grammar true t).outcome = .ok (check grammar true t).streamed ∧
      ((∀ r ∈ (check grammar true t).streamed, r.isFailure = false) →
        check grammar false t = check grammar true t) ∧
      ∀ before r later cause, (check grammar true t).streamed = before ++ r :: later →
        (∀ q ∈ before, q.isFailure = false) → r.answer = .error cause →
        (check grammar false t).streamed = before ∧
        (check grammar false t).outcome = .error (.line r.line cause) ∧
        (check grammar false t).log = (check grammar true t).log.take before.length ∧
        (check grammar false t).steps <+: (check grammar true t).steps ∧
        ∀ event ∈ (check grammar false t).log, event.record.level = .debug) := by
  cases htasks : grammar.tasks t with
  | error fault =>
    rw [check_of_fault htasks, check_of_fault htasks]
    refine ⟨fun name h => ⟨h, rfl, rfl⟩, fun otherwise => ?_⟩
    exact absurd (congrArg Except.error (Grammar.tasks_eq_error htasks)) (otherwise _)
  | ok tasks =>
    rw [outcome_keepGoing htasks, streamed_keepGoing htasks]
    refine ⟨fun name h => (nomatch h), fun _ => ⟨rfl, fun success => ?_, ?_⟩⟩
    · refine check_strict_of_success htasks fun task h => ?_
      exact success task.result (List.mem_map_of_mem h)
    · intro before r later cause hsplit success failure
      obtain ⟨front, back, rfl, rfl, hback⟩ := List.map_eq_append_iff.mp hsplit
      obtain ⟨task, rest, rfl, rfl, rfl⟩ := List.map_eq_cons_iff.mp hback
      have hfront : ∀ task ∈ front, task.result.isFailure = false := fun task h =>
        success task.result (List.mem_map_of_mem h)
      have strict := check_strict_of_failure htasks hfront failure
      have hlog : (check grammar false t).log = (front.map Task.result).map LineResult.event := by
        rw [strict, log_recordAll]
        exact List.append_nil _
      refine ⟨?_, ?_, ?_, ?_, ?_⟩
      · rw [strict, streamed_recordAll]
        exact List.append_nil _
      · rw [strict, outcome_recordAll]
        rfl
      · rw [hlog, log_keepGoing htasks, List.map_append, List.map_append, List.append_assoc]
        refine (List.take_left' ?_).symm
        rw [List.length_map]
      · rw [strict, steps_recordAll, steps_keepGoing htasks, List.map_append, List.flatMap_append,
          List.append_assoc, List.append_nil]
        exact List.prefix_append _ _
      · intro event hevent
        rw [hlog] at hevent
        obtain ⟨q, hq, rfl⟩ := List.mem_map.mp hevent
        exact LineResult.level_event (success q hq)

/-- A first failure on the third line, after a blank one. -/
theorem strict_follows_keepGoing_to_third_line :
    (check .nodes false "AAA = (BBB, CCC)\n\nBBB = DDD\n".toList).streamed =
        [⟨1, .ok "AAA -> (BBB, CCC)".toList⟩] ∧
      (check .nodes false "AAA = (BBB, CCC)\n\nBBB = DDD\n".toList).outcome =
        .error (.line 3 (.unexpectedCharacter ['('] ['D'])) := by
  have outcome : (check .nodes true "AAA = (BBB, CCC)\n\nBBB = DDD\n".toList).outcome =
      .ok [⟨1, .ok "AAA -> (BBB, CCC)".toList⟩,
        ⟨3, .error (.unexpectedCharacter ['('] ['D'])⟩] := by
    decide +kernel
  obtain ⟨returned, -, failure⟩ := (strict_follows_keepGoing .nodes _).2
    (by rw [outcome]; exact fun _ => nofun)
  rw [outcome] at returned
  have strict := failure [_] _ [] _ (Except.ok.inj returned).symm
    (by simp [LineResult.isFailure]) rfl
  exact ⟨strict.1, strict.2.1⟩

end Run

end LineGrammar
