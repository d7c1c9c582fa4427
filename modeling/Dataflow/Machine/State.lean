import Dataflow.Journal
import Dataflow.Program
import Dataflow.Queue

/-!
# Machine states

A `Setup` is what stays fixed during a run: the program, the dispatch limit and the listener that
is told each printed value. A `State` is what changes. Operations give an `Outcome`: the state
they leave and the failure that cut them short, if any; what was done before a failure stays done.
-/

set_option autoImplicit false

namespace Dataflow

/-! ## Listeners -/

/-- Why a listener turns a value down. -/
inductive Refusal where
  | declined
  | digitLimit
  deriving DecidableEq, Repr

/-- The wording of a refusal. -/
def Refusal.message : Refusal → String
  | .declined => "emit failed"
  | .digitLimit =>
    "Exceeds the limit (" ++ Nat.repr Text.digitLimit ++
      " digits) for integer string conversion; " ++
      "use sys.set_int_max_str_digits() to increase the limit"

/-- A listener is told each printed value, and may refuse it in view of the values told before. -/
structure Listener where
  refuses : Array Value → Value → Option Refusal

namespace Listener

/-- Takes every value. -/
def willing : Listener := ⟨fun _ _ => none⟩

/-- Takes every value but the one of a given number, counted from 1. -/
def refusingAt (number : Int) : Listener :=
  ⟨fun told _ => if (told.size : Int) + 1 = number then some .declined else none⟩

/-- Takes the values that can be printed. -/
def printing : Listener :=
  ⟨fun _ value => if value.printable then none else some .digitLimit⟩

end Listener

/-! ## Setups and states -/

/-- What stays fixed during a run. The limit bounds the number of dispatches; 0 stands for none. -/
structure Setup where
  program : Program
  limit : Int
  listener : Option Listener

/-- What changes during a run: `bindings` are those made for the next call, `output` the values
printed, and `told` the values that the listener was told. -/
structure State where
  phase : Phase
  store : Store
  queue : Queue
  bindings : List Binding
  output : Array Value
  told : Array Value
  dispatches : Nat
  journal : Array Event
  deriving DecidableEq, Repr

/-- Why an operation stopped. -/
inductive Failure where
  | fault (f : Fault)
  | refusal (r : Refusal)
  /-- A dispatch limit was exceeded that has too many digits to be named in a fault. -/
  | unwritableLimit (limit : Int)
  | alreadyRan (phase : Phase)
  deriving DecidableEq, Repr

namespace Failure

/-- The wording of a failure. -/
def message : Failure → String
  | .fault f => f.render
  | .refusal r => r.message
  | .unwritableLimit _ => Refusal.digitLimit.message
  | .alreadyRan phase => "Machine already ran (state=" ++ phase.word ++ ")"

/-- The failure of a call beyond the dispatch limit: a fault that names the limit, if the limit can
be written. -/
def overLimit (limit : Int) : Failure :=
  if Text.withinDigitLimit limit then .fault (.unplaced (.dispatchLimit limit))
  else .unwritableLimit limit

end Failure

/-- The state that an operation leaves, and the failure that cut it short. -/
structure Outcome where
  state : State
  failure : Option Failure
  deriving DecidableEq, Repr

namespace Outcome

/-- A complete operation. -/
def done (state : State) : Outcome := ⟨state, none⟩

/-- An operation cut short. -/
def stopped (state : State) (failure : Failure) : Outcome := ⟨state, some failure⟩

/-- An operation cut short by a fault that no line is known for. -/
def faulty (state : State) (cause : Cause) : Outcome := stopped state (.fault (.unplaced cause))

end Outcome

namespace State

/-- The state of a new machine whose journal starts with the given events. -/
def initial (journal : Array Event) : State :=
  { phase := .initializing
    store := .empty
    queue := []
    bindings := []
    output := #[]
    told := #[]
    dispatches := 0
    journal }

/-- Records an event. -/
def note (state : State) (event : Event) : State :=
  { state with journal := state.journal.push event }

/-- Records events in order. -/
def noteAll (state : State) (events : List Event) : State :=
  events.foldl note state

/-- Changes the phase. -/
def move (state : State) (phase : Phase) : State :=
  { state with phase }.note (.moved state.phase phase)

/-- Gives a variable a value and a readiness. -/
def write (state : State) (name : String) (value : Value) (ready : Bool) : Outcome :=
  match state.store.write name value ready with
  | .ok store => .done ({ state with store }.note (.wrote name value ready))
  | .error fault => .stopped state (.fault fault)

/-- Appends a call to the queue. -/
def enqueue (state : State) (call : PendingCall) : State :=
  { state with queue := state.queue.enqueue call }.note (.enqueued call (state.queue.length + 1))

/-- Prints a value and tells the listener, which may refuse it. -/
def emit (state : State) (listener : Option Listener) (value : Value) : Outcome :=
  let printed := { state with output := state.output.push value }
  match listener with
  | none => .done printed
  | some listener =>
    let refusal := listener.refuses state.told value
    let heard := { printed with told := printed.told.push value }
    match refusal with
    | none => .done heard
    | some refusal => .stopped heard (.refusal refusal)

end State

end Dataflow
