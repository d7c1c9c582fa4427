import Dataflow.Machine.Run
import Dataflow.Program.Parse
import Dataflow.Settings
import Dataflow.Text.Utf8

/-!
# Sessions

A session takes a program text, or the bytes of a file, to a finished run under given settings. It
can end before anything runs: the bytes may not be UTF-8, the settings may not load, the program
may not parse or may lack its entry function. However it ends, a `Conclusion` holds the journal,
the values that the listener was told, and the report or the failure.
-/

set_option autoImplicit false

namespace Dataflow

/-- What a run that halted leaves. -/
structure Report where
  phase : Phase
  output : Array Value
  dispatches : Nat
  store : Store
  deriving DecidableEq, Repr

/-- Whether a run halted. -/
def Report.ok (report : Report) : Bool :=
  report.phase = .halted

/-- How a session ended. -/
structure Conclusion where
  journal : Array Event
  told : Array Value
  result : Except Failure Report

namespace Conclusion

/-- A session that ended before its machine ran. -/
def early (journal : Array Event) (fault : Fault) : Conclusion :=
  ⟨journal, #[], .error (.fault fault)⟩

/-- The end of a session whose machine ran. -/
def ofOutcome (outcome : Outcome) : Conclusion :=
  let state := outcome.state
  match outcome.failure with
  | some failure => ⟨state.journal, state.told, .error failure⟩
  | none =>
    ⟨state.journal.push (.finished state.dispatches), state.told,
      .ok ⟨state.phase, state.output, state.dispatches, state.store⟩⟩

end Conclusion

/-- A machine about to run. -/
structure Session where
  setup : Setup
  state : State

/-- The events of reading functions. -/
def registrations (functions : List Function) : List Event :=
  functions.map fun f => .registered f.name f.body.length

namespace Session

/-- Prepares the run of a program text. -/
def ofText (settings : Settings) (listener : Option Listener) (text : String) :
    Except Conclusion Session :=
  let reading := Program.read settings.skipBlankLines (Text.lines text)
  let registered := registrations reading.functions
  match reading.fault with
  | some fault => .error (.early registered.toArray fault)
  | none =>
    let program : Program := ⟨reading.functions⟩
    let journal := registered.toArray.push (.catalogued program.names)
    match program.entry with
    | .error fault => .error (.early journal fault)
    | .ok _ => .ok ⟨⟨program, settings.maxDispatches, listener⟩, .initial journal⟩

/-- Prepares the run of a program text under given settings, or under those of the environment. -/
def ofSource (environment : Environment) (settings : Option Settings) (listener : Option Listener)
    (text : String) : Except Conclusion Session :=
  match settings with
  | some settings => ofText settings listener text
  | none =>
    match Settings.load environment .none with
    | .ok settings => ofText settings listener text
    | .error fault => .error (.early #[] fault)

/-- Prepares the run of a file, whose bytes are checked before the settings. -/
def ofFile (environment : Environment) (settings : Option Settings) (listener : Option Listener)
    (path : String) (bytes : List UInt8) : Except Conclusion Session :=
  match Text.Utf8.decode bytes with
  | .error flaw => .error (.early #[] (.unplaced (.invalidEncoding path flaw.message)))
  | .ok text => ofSource environment settings listener (Text.unifyReturns text)

/-- The conclusion of a session that runs for at most the given number of steps. -/
def conclude (steps : Nat) : Except Conclusion Session → Option Conclusion
  | .error conclusion => some conclusion
  | .ok session => (session.setup.run steps session.state).map .ofOutcome

end Session

/-- Runs a program text. -/
def runSource (steps : Nat) (environment : Environment) (settings : Option Settings)
    (listener : Option Listener) (text : String) : Option Conclusion :=
  Session.conclude steps (Session.ofSource environment settings listener text)

/-- Runs a file. -/
def runFile (steps : Nat) (environment : Environment) (settings : Option Settings)
    (listener : Option Listener) (path : String) (bytes : List UInt8) : Option Conclusion :=
  Session.conclude steps (Session.ofFile environment settings listener path bytes)

end Dataflow
