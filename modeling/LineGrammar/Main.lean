import LineGrammar.Command.Program
import LineGrammar.Command.TimeStamp
import LineGrammar.Command.Usage

/-!
The command itself: it reads the file, takes the time of every line, and writes what the program
says to the standard streams.
-/

namespace LineGrammar.Console

/-- Reads the bytes of a file. -/
def readSource (path : String) : IO (Except ReadFault Bytes) := do
  try
    return .ok (← IO.FS.readBinFile path).data.toList
  catch fault =>
    match fault with
    | .noFileOrDirectory .. => return .error .notFound
    | .inappropriateType .. => return .error .isDirectory
    | other => return .error (.other (toString other).toList)

/-- The duration between two readings of the clock. -/
def durationBetween (start stop : Nat) : Duration :=
  (Duration.ofNanos? (Int.ofNat stop - Int.ofNat start)).getD Duration.longest

/-- Answers the tasks one by one and takes the time, up to where a strict check ends. -/
def measureTasks (keepGoing : Bool) : List Task → IO (List Duration)
  | [] => return []
  | task :: rest => do
    let start ← IO.monoNanosNow
    let answer ← IO.lazyPure fun _ => task.answer
    let stop ← IO.monoNanosNow
    match answer, keepGoing with
    | .error _, false => return []
    | _, _ => return durationBetween start stop :: (← measureTasks keepGoing rest)

/-- The durations of the lines that the arguments lead to. -/
def measureLines (argv : List Text) (bytes : Except ReadFault Bytes) : IO (List Duration) := do
  match Arguments.parse argv with
  | .error _ => return []
  | .ok arguments =>
    match Settings.load (fun _ => bytes) arguments with
    | .error _ => return []
    | .ok settings =>
      match settings.grammar.tasks settings.input with
      | .error _ => return []
      | .ok tasks => measureTasks settings.keepGoing tasks

/-- The nanoseconds since the beginning of 1970. A new file is stamped with them, and there is no
clock at hand that tells them. -/
def nanosNow : IO Nat :=
  IO.FS.withTempFile fun _ path => do
    let modified := (← path.metadata).modified
    return modified.sec.toNat * 1000000000 + modified.nsec.toNat

/-- The time stamp of a line of the log. -/
def stampNow : IO Text := do
  try
    return timeStamp (← nanosNow)
  catch _ =>
    return "<unknown time>".toList

/-- The text of a piece. The clock is read where the piece asks for it. -/
def textOf (start : Nat) : Piece → IO Text
  | .text t => return t
  | .duration d => return d.format
  | .elapsed => return Duration.formatMicros (((← IO.monoNanosNow) - start) / 1000)
  | .stamp => stampNow

/-- Writes to the standard streams in order. -/
def performWrites (start : Nat) (writes : List Write) : IO Unit := do
  let out ← IO.getStdout
  let err ← IO.getStderr
  for write in writes do
    let stream := match write.channel with
      | .out => out
      | .err => err
    for piece in write.pieces do
      stream.putStr (String.ofList (← textOf start piece))
  out.flush

/-- Runs the command and returns its status. -/
def run (arguments : List String) : IO UInt32 := do
  let start ← IO.monoNanosNow
  let argv := arguments.map String.toList
  let logText := ((← IO.getEnv "RUST_LOG").getD "").toList
  let bytes ← match Arguments.parse argv with
    | .ok parsed => readSource (String.ofList parsed.input)
    | .error _ => pure (.error .notFound)
  let laps ← measureLines argv bytes
  match Program.run argv (fun _ => bytes) logText (fun n => laps.getD n Duration.zero) with
  | .unstarted fault =>
    let stream ← if fault.status = 0 then IO.getStdout else IO.getStderr
    stream.putStr (String.ofList fault.message)
    return UInt32.ofNat fault.status
  | .ended writes status =>
    performWrites start writes
    return UInt32.ofNat status

end LineGrammar.Console

/-- Runs the command. -/
def main (arguments : List String) : IO UInt32 := LineGrammar.Console.run arguments
