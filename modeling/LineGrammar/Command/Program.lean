import LineGrammar.Command.LogFilter
import LineGrammar.Command.Settings

/-!
The whole command: read the arguments and the input, check the input, report every result as it
comes, sum up, and end with a status. What is written and the status are one value. The durations of
the lines come from outside, by the position of the result.
-/

namespace LineGrammar

/-- How a program ends. -/
inductive Ending where
  /-- The arguments were refused, or ask for help or the version. -/
  | unstarted (fault : ArgumentFault)
  /-- What was written, and the status. -/
  | ended (writes : List Write) (status : Nat)
  deriving DecidableEq

namespace Program

/-- What is written about an event. -/
def logged (filter : LogFilter) (event : Event) : List Write :=
  if filter.shows event.record then [event.record.write] else []

/-- What is written about the steps of a run, with the position of the next result. -/
def reported (filter : LogFilter) (quiet : Bool) (lap : Nat → Duration) :
    Nat → List Step → List Write
  | _, [] => []
  | n, .logged event :: rest => logged filter event ++ reported filter quiet lap n rest
  | n, .streamed result :: rest =>
    Report.result quiet ⟨result, lap n⟩ :: reported filter quiet lap (n + 1) rest

/-- The last words of a program that ends with a fault. -/
def lastWords (fault : CheckFault) : Write :=
  ⟨.err, [.text ("Error: ".toList ++ fault.message ++ "\n".toList)]⟩

/-- The results with their durations. -/
def timed (lap : Nat → Duration) (results : List LineResult) : List TimedResult :=
  results.zipIdx.map fun (result, n) => ⟨result, lap n⟩

/-- What is written after a run, and the status. A sum of durations out of range ends the program
before anything of the summary is written. -/
def conclusion (quiet : Bool) (lap : Nat → Duration) (run : Run) : List Write × Nat :=
  match run.outcome with
  | .error fault => ([lastWords fault], 1)
  | .ok results =>
    let closing : List Write × Nat :=
      match LineResult.failures results with
      | 0 => ([], 0)
      | failed => ([lastWords (.failures failed)], 1)
    match Report.summary quiet (timed lap results) with
    | some summary => (summary ++ closing.1, closing.2)
    | none => ([⟨.err, [.text (Report.overflowMessage ++ "\n".toList)]⟩], 101)

/-- Checks the input of the settings. -/
def check (logText : Text) (lap : Nat → Duration) (settings : Settings) : List Write × Nat :=
  let filter := LogFilter.ofText settings.level logText
  let complaints := (LogFilter.complaints logText).map fun t => (⟨.err, [.text t]⟩ : Write)
  let started := Event.started settings.path settings.grammar settings.keepGoing
  let run := Run.check settings.grammar settings.keepGoing settings.input
  let (closing, status) := conclusion settings.quiet lap run
  (complaints ++ logged filter started ++ reported filter settings.quiet lap 0 run.steps ++
    closing, status)

/-- Runs the command on arguments, with the files to read from and the filter for the log. -/
def run (argv : List Text) (read : Text → Except ReadFault Bytes) (logText : Text)
    (lap : Nat → Duration) : Ending :=
  match Arguments.parse argv with
  | .error fault => .unstarted fault
  | .ok arguments =>
    match Settings.load read arguments with
    | .error fault => .ended [lastWords fault] 1
    | .ok settings =>
      let (writes, status) := check logText lap settings
      .ended writes status

end Program

end LineGrammar
