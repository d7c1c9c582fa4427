import Dataflow.CommandLine

/-!
# The program

Reads the command line, the environment and the program file, and writes what the run prints while
it goes on.
-/

set_option autoImplicit false

namespace Dataflow

/-- The bytes of a file, if there is such a file. -/
def readBytes? (path : String) : IO (Option (List UInt8)) := do
  try
    return some (← IO.FS.readBinFile path).toList
  catch _ =>
    return none

/-- Writes a text to standard output and standard error. -/
def writeStreams (stdout stderr : String) : IO Unit := do
  IO.print stdout
  (← IO.getStdout).flush
  IO.eprint stderr

/-- Ends with an exit status, or with the message of a failure. -/
def exitStatus : Except Failure Nat → IO UInt32
  | .ok status => return status.toUInt32
  | .error failure => do
    IO.eprintln failure.message
    return 1

/-- Closes a job that came to a conclusion and of which the first values and events are written. -/
def closeJob (job : CommandLine.Job) (conclusion : Conclusion) (values events : Nat) :
    IO UInt32 := do
  let (exit, last) := CommandLine.closing job.options conclusion.result
  writeStreams (CommandLine.printed conclusion.told values)
    (CommandLine.traced job.settings conclusion.journal events ++ last)
  exitStatus exit

/-- Goes on with a run of which the first values and events are written. -/
partial def followRun (job : CommandLine.Job) (setup : Setup) (run : Run) (values events : Nat) :
    IO UInt32 := do
  match run with
  | .ended outcome => closeJob job (.ofOutcome outcome) values events
  | .draining state =>
    writeStreams (CommandLine.printed state.told values)
      (CommandLine.traced job.settings state.journal events)
    followRun job setup (setup.drain state) state.told.size state.journal.size

/-- Carries out a job. -/
def performJob (job : CommandLine.Job) : IO UInt32 :=
  match job.session with
  | .error conclusion => closeJob job conclusion 0 0
  | .ok session => followRun job session.setup (session.setup.start session.state) 0 0

/-- The environment variables that settings use. -/
def readEnvironment : IO Environment := do
  return ⟨← IO.getEnv Environment.logLevelVariable, ← IO.getEnv Environment.maxDispatchesVariable,
    ← IO.getEnv Environment.skipBlankLinesVariable⟩

/-- Answers a command line. -/
def perform (arguments : List String) : IO UInt32 := do
  let content ←
    match Arguments.parse arguments with
    | .ok options => readBytes? options.path
    | .error _ => pure none
  match CommandLine.request (← readEnvironment) (fun _ => content) arguments with
  | .answered transcript =>
    writeStreams transcript.stdout transcript.stderr
    exitStatus transcript.exit
  | .job job => performJob job

end Dataflow

/-- Runs the program named on the command line. -/
def main (arguments : List String) : IO UInt32 :=
  Dataflow.perform arguments
