import LineGrammar.Check.Run
import LineGrammar.Duration

/-!
What a check prints. A report is made of pieces; those that depend on the clock are marked, so that
everything else can be compared. Quiet reports hold the values alone.
-/

namespace LineGrammar

/-- A piece of output. -/
inductive Piece where
  | text (t : Text)
  /-- A measured duration. -/
  | duration (d : Duration)
  /-- The time since the program began. -/
  | elapsed
  /-- The time of day. -/
  | stamp
  deriving DecidableEq

/-- A line result with the time that it took. -/
structure TimedResult where
  result : LineResult
  duration : Duration
  deriving DecidableEq

/-- Where output goes. -/
inductive Channel where
  | out
  | err
  deriving DecidableEq, Repr

/-- Something written to a channel. -/
structure Write where
  channel : Channel
  pieces : List Piece
  deriving DecidableEq

namespace Report

/-- One result. A failure goes to the error channel whether the report is quiet or not. -/
def result (quiet : Bool) (r : TimedResult) : Write :=
  match r.result.answer with
  | .ok value =>
    if quiet then ⟨.out, [.text (value ++ "\n".toList)]⟩
    else ⟨.out,
      [.text ("Line ".toList ++ Text.ofNat r.result.line ++ ": ".toList ++ value ++
        " (parse: ".toList), .duration r.duration, .text ")\n".toList]⟩
  | .error error =>
    ⟨.err, [.text ("Line ".toList ++ Text.ofNat r.result.line ++ ": Error - ".toList ++
      error.message ++ "\n".toList)]⟩

/-- The summary of all results with the sum of their durations. -/
def summaryOf (results : List TimedResult) (total : Duration) : Write :=
  let failed := LineResult.failures (results.map TimedResult.result)
  let parsed := results.length - failed
  ⟨.out,
    [.text ("\n--- Summary ---\nLines: ".toList ++ Text.ofNat parsed ++ " parsed, ".toList ++
      Text.ofNat failed ++ " failed\nTotal parse time: ".toList),
    .duration total, .text "\nElapsed wall-clock time: ".toList, .elapsed, .text "\n".toList]⟩

/-- What is written after all results. A quiet report ends with nothing; of another one there is
none if the sum of the durations is out of range. -/
def summary (quiet : Bool) (results : List TimedResult) : Option (List Write) :=
  if quiet then some []
  else (Duration.total (results.map TimedResult.duration)).map fun total =>
    [summaryOf results total]

/-- What the program says when it gives up on a sum of durations. -/
def overflowMessage : Text := "`TimeDelta + TimeDelta` overflowed".toList

end Report

end LineGrammar
