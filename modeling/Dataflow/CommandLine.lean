import Dataflow.Arguments
import Dataflow.Session
import Dataflow.StateDump

/-!
# The command line

A command line is answered by an exit status and the texts of the two output streams. Usage
complaints, requests for help, missing files and settings that do not load are answered at once;
otherwise a run takes place, whose printed values are the lines of standard output and whose
journal, if it is traced, precedes the fault or the state dump on standard error.
-/

set_option autoImplicit false

namespace Dataflow.CommandLine

/-! ## Texts -/

/-- How the program is called. -/
def usage : String :=
  "usage: aeolis [-h] [--trace] [--max-dispatches MAX_DISPATCHES]\n" ++
  "              [--skip-blank-lines] [--dump-state]\n" ++
  "              il_file\n"

/-- The help text. -/
def help : String :=
  usage ++
  "\n" ++
  "AEOLIS: dataflow-triggered IL interpreter\n" ++
  "\n" ++
  "positional arguments:\n" ++
  "  il_file               Path to IL source file\n" ++
  "\n" ++
  "options:\n" ++
  "  -h, --help            show this help message and exit\n" ++
  "  --trace               Log scheduling decisions to stderr\n" ++
  "  --max-dispatches MAX_DISPATCHES\n" ++
  "                        Abort after this many dispatched calls (0 = unlimited)\n" ++
  "  --skip-blank-lines    Ignore whitespace-only lines in the IL source\n" ++
  "  --dump-state          Write the final variable store as JSON to stderr\n"

/-! ## Answers -/

/-- What a command line is answered: an exit status, or the failure with which the process ends
without one, and what was written. -/
structure Transcript where
  exit : Except Failure Nat
  stdout : String
  stderr : String

/-- An answer without a run. -/
def Transcript.plain (exit : Nat) (stdout stderr : String) : Transcript :=
  ⟨.ok exit, stdout, stderr⟩

/-- The complaint about a fault. -/
def complaint (fault : Fault) : String :=
  "error: " ++ fault.render ++ "\n"

/-- The answer to a command line that stops short of a run. -/
def usageAnswer : UsageStop → Transcript
  | .help => .plain 0 help ""
  | .error e => .plain 2 "" (usage ++ "aeolis: error: " ++ e.message ++ "\n")

/-! ## Runs -/

/-- The raw setting that a value on the command line stands for; an empty one is an empty list. -/
def rawBound : BoundValue → RawSetting
  | .number n => .int n
  | .empty => .compound

/-- The overrides that options stand for. -/
def overrides (options : Options) : Overrides where
  logLevel := if options.trace then some (.text "DEBUG") else none
  maxDispatches := options.maxDispatches.map rawBound
  skipBlankLines := if options.skipBlankLines then some (.bool true) else none

/-- A run that a command line asks for. -/
structure Job where
  options : Options
  settings : Settings
  session : Except Conclusion Session

/-- A command line that is answered, or asks for a run. -/
inductive Request where
  | answered (transcript : Transcript)
  | job (job : Job)

/-- Takes up a command line; `files` gives the bytes of the files that exist. -/
def request (environment : Environment) (files : String → Option (List UInt8))
    (arguments : List String) : Request :=
  match Arguments.parse arguments with
  | .error stop => .answered (usageAnswer stop)
  | .ok options =>
    match files options.path with
    | none => .answered (.plain 2 "" ("error: IL file not found: " ++ options.path ++ "\n"))
    | some bytes =>
      match Settings.load environment (overrides options) with
      | .error fault => .answered (.plain 1 "" (complaint fault))
      | .ok settings =>
        .job ⟨options, settings,
          Session.ofFile environment (some settings) (some .printing) options.path bytes⟩

/-- The lines of the values that were printed, from a given one on. -/
def printed (told : Array Value) (first : Nat) : String :=
  String.join (((told.extract first).toList.takeWhile Value.printable).map fun v => v.plain ++ "\n")

/-- The lines of the journal, from a given event on, if it is traced. An integer is rendered whatever
its length; a logger has no line for one beyond the digit limit and reports that instead. -/
def traced (settings : Settings) (journal : Array Event) (first : Nat) : String :=
  if settings.logLevel.traces then
    String.join ((journal.extract first).toList.map fun event => event.render ++ "\n")
  else ""

/-- How a run is closed: its exit status, and what is written behind the journal. -/
def closing (options : Options) : Except Failure Report → Except Failure Nat × String
  | .error (.fault fault) => (.ok 1, complaint fault)
  | .error failure => (.error failure, "")
  | .ok report =>
    if options.dumpState then
      match StateDump.dump report.store with
      | .ok text => (.ok 0, text ++ "\n")
      | .error refusal => (.error (.refusal refusal), "")
    else (.ok 0, "")

/-- The answer to a job that came to a conclusion. -/
def Job.transcript (job : Job) (conclusion : Conclusion) : Transcript :=
  let (exit, last) := closing job.options conclusion.result
  ⟨exit, printed conclusion.told 0, traced job.settings conclusion.journal 0 ++ last⟩

/-- The answer to a command line whose run takes at most the given number of steps. -/
def answer (steps : Nat) (environment : Environment) (files : String → Option (List UInt8))
    (arguments : List String) : Option Transcript :=
  match request environment files arguments with
  | .answered transcript => some transcript
  | .job job => (Session.conclude steps job.session).map job.transcript

end Dataflow.CommandLine
