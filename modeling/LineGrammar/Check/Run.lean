import LineGrammar.Check.Event

/-!
A run of a check. The tasks are answered in order; every result is logged and then handed on as soon
as it is known. A strict run ends at the first failing line, which is neither logged nor handed on;
a run that keeps going records the failure like any other result. `Run.steps` is what happened, in
order; `Run.streamed` and `Run.log` are its two parts.
-/

namespace LineGrammar

/-- The result of one line. -/
structure LineResult where
  line : Nat
  answer : Except ParseError Text
  deriving DecidableEq

namespace LineResult

/-- Whether the line did not match. -/
def isFailure (r : LineResult) : Bool :=
  match r.answer with
  | .ok _ => false
  | .error _ => true

/-- What the log says about a result. -/
def event (r : LineResult) : Event :=
  match r.answer with
  | .ok value => .parsed r.line value
  | .error error => .failed r.line error

/-- The number of failures among results. -/
def failures (results : List LineResult) : Nat := results.countP isFailure

end LineResult

/-- One thing that happens in a run. -/
inductive Step where
  | logged (event : Event)
  | streamed (result : LineResult)
  deriving DecidableEq

/-- What happened in a run, and the results it returned or the fault it ended with. -/
structure Run where
  steps : List Step
  outcome : Except CheckFault (List LineResult)
  deriving DecidableEq

namespace Run

/-- The run with a result in front that was logged and handed on. -/
def record (r : LineResult) (later : Run) : Run :=
  ⟨.logged r.event :: .streamed r :: later.steps, later.outcome.map (r :: ·)⟩

/-- Answers the tasks in order. -/
def ofTasks (keepGoing : Bool) : List Task → Run
  | [] => ⟨[], .ok []⟩
  | task :: rest =>
    match task.answer with
    | .ok value => record ⟨task.line, .ok value⟩ (ofTasks keepGoing rest)
    | .error error =>
      if keepGoing then record ⟨task.line, .error error⟩ (ofTasks keepGoing rest)
      else ⟨[], .error (.line task.line error)⟩

/-- Logs the end of a run that looked at all lines. -/
def finish (run : Run) : Run :=
  match run.outcome with
  | .ok results =>
    { run with
      steps := run.steps ++ [.logged (.finished results.length (LineResult.failures results))] }
  | .error _ => run

/-- Checks a text against a grammar. -/
def check (grammar : Grammar) (keepGoing : Bool) (t : Text) : Run :=
  match grammar.tasks t with
  | .ok tasks => (ofTasks keepGoing tasks).finish
  | .error fault => ⟨[], .error fault⟩

/-- The result that a step hands on. -/
def streamed? : Step → Option LineResult
  | .streamed result => some result
  | .logged _ => none

/-- The event that a step logs. -/
def logged? : Step → Option Event
  | .logged event => some event
  | .streamed _ => none

/-- The results in the order in which they were handed on. -/
def streamed (run : Run) : List LineResult := run.steps.filterMap streamed?

/-- The events in the order in which they were logged. -/
def log (run : Run) : List Event := run.steps.filterMap logged?

end Run

end LineGrammar
