import Dataflow.Machine.Dispatch

/-!
# Runs

A run carries out the entry function and then drains the queue: each step scans for the first
eligible call and dispatches it. The run ends when the queue is empty (halted), when calls are
queued and none is eligible (deadlocked), or at the first failure (failed). Runs need not end, so
`Setup.run` takes a bound on the number of steps; a run that ended does not change with a larger
bound.
-/

set_option autoImplicit false

namespace Dataflow

/-! ## Scans on a state -/

namespace State

/-- Records the calls that a scan passed over. -/
def noteSkipped (state : State) (skipped : List PendingCall) : State :=
  state.noteAll (skipped.map Event.skipped)

/-- Scans the queue. -/
def select (state : State) : State × Except Fault Scan :=
  let survey := state.queue.survey state.store
  (state.noteSkipped survey.skipped, survey.found)

/-- Scans the queue and takes the call that was found out of it. -/
def pop (state : State) : State × Except Fault Scan :=
  match state.select with
  | (state, .ok scan) => ({ state with queue := state.queue.remove scan }, .ok scan)
  | (state, .error fault) => (state, .error fault)

end State

/-! ## Steps of a run -/

/-- A run that is draining its queue, or has ended. -/
inductive Run where
  | draining (state : State)
  | ended (outcome : Outcome)
  deriving DecidableEq, Repr

namespace Run

/-- The state of a run. -/
def state : Run → State
  | draining state => state
  | ended outcome => outcome.state

/-- The outcome of a run that has ended. -/
def outcome? : Run → Option Outcome
  | draining _ => none
  | ended outcome => some outcome

/-- A run that halts. -/
def halt (state : State) : Run := ended (.done (state.move .halted))

/-- A run that ends with a failure in the given phase. -/
def fail (state : State) (phase : Phase) (failure : Failure) : Run :=
  ended (.stopped (state.move phase) failure)

end Run

namespace Setup

/-- Starts a run: only a new machine can run, and its entry function comes first. -/
def start (setup : Setup) (state : State) : Run :=
  match state.phase with
  | .initializing =>
    match setup.runFunction entryName (state.move .running) with
    | ⟨state, none⟩ => .draining (state.move .draining)
    | ⟨state, some failure⟩ => .fail state .failed failure
  | phase => .ended (.stopped state (.alreadyRan phase))

/-- One step of draining: a scan, and the dispatch of the call it found. -/
def drain (setup : Setup) (state : State) : Run :=
  match state.pop with
  | (state, .error fault) => .fail state .failed (.fault fault)
  | (state, .ok .empty) => .halt state
  | (state, .ok .stuck) =>
    .fail state .deadlocked (.fault (.unplaced (.deadlocked state.queue.length)))
  | (state, .ok (.runnable _ call)) =>
    match setup.dispatch call state with
    | ⟨state, none⟩ => .draining state
    | ⟨state, some failure⟩ => .fail state .failed failure

/-- One step of a run. -/
def step (setup : Setup) : Run → Run
  | .draining state => setup.drain state
  | .ended outcome => .ended outcome

/-- The run after at most the given number of steps. -/
def advance (setup : Setup) : Nat → Run → Run
  | 0, run => run
  | _ + 1, .ended outcome => .ended outcome
  | steps + 1, .draining state => setup.advance steps (setup.drain state)

/-- The outcome of a whole run, if it ends within the given number of steps. -/
def run (setup : Setup) (steps : Nat) (state : State) : Option Outcome :=
  (setup.advance steps (setup.start state)).outcome?

/-! ## More steps -/

/-- A run that has ended stays as it is. -/
theorem advance_ended (setup : Setup) (steps : Nat) (outcome : Outcome) :
    setup.advance steps (.ended outcome) = .ended outcome := by
  cases steps <;> rfl

/-- Steps can be taken in two portions. -/
theorem advance_add (setup : Setup) (first second : Nat) (run : Run) :
    setup.advance (first + second) run = setup.advance second (setup.advance first run) := by
  induction first generalizing run with
  | zero => rw [Nat.zero_add]; rfl
  | succ first ih =>
    rw [Nat.succ_add]
    cases run with
    | draining state => exact ih (setup.drain state)
    | ended outcome => rw [advance_ended, advance_ended, advance_ended]

end Setup

end Dataflow
