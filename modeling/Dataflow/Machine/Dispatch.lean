import Dataflow.Machine.Execute

/-!
# Carrying out calls

A dispatched call goes to an intrinsic function if its name is that of one, and otherwise to the
function of the program. The intrinsic functions take their variables by position: `add` writes
the sum of the first two into the third, and `print` prints the first. Directions only matter to
the queue.
-/

set_option autoImplicit false

namespace Dataflow

/-! ## Intrinsic functions -/

/-- The functions that need no definition. -/
inductive Intrinsic where
  | add
  | print
  deriving DecidableEq, Repr

namespace Intrinsic

/-- The name of an intrinsic function. -/
def name : Intrinsic → String
  | add => "add"
  | print => "print"

/-- The intrinsic function of a given name. -/
def ofName? (name : String) : Option Intrinsic :=
  if name = "add" then some add else if name = "print" then some print else none

end Intrinsic

/-- A variable's value as a summand. -/
def Store.operand (store : Store) (name : String) : Except Fault Int :=
  match store.read name with
  | .error fault => .error fault
  | .ok value =>
    match value.toInt? with
    | some n => .ok n
    | none => .error (.unplaced (.invalidOperand name value))

/-- The sum of two variables. -/
def Store.sum (store : Store) (left right : String) : Except Fault Int :=
  match store.operand left with
  | .error fault => .error fault
  | .ok a =>
    match store.operand right with
    | .error fault => .error fault
    | .ok b => .ok (a + b)

/-- Writes the sum of the first two variables into the third. -/
def State.runAdd (state : State) (call : PendingCall) : Outcome :=
  match call.bindings with
  | left :: right :: target :: _ =>
    match state.store.sum left.name right.name with
    | .ok n => state.write target.name (.int n) true
    | .error fault => .stopped state (.fault fault)
  | bindings => .faulty state (.intrinsicArity call.function 3 bindings.length)

/-- Prints the first variable. -/
def State.runPrint (state : State) (listener : Option Listener) (call : PendingCall) : Outcome :=
  match call.bindings with
  | source :: _ =>
    match state.store.read source.name with
    | .ok value => state.emit listener value
    | .error fault => .stopped state (.fault fault)
  | [] => .faulty state (.intrinsicArity call.function 1 0)

namespace Setup

/-- Carries out a call of an intrinsic function. -/
def runIntrinsic (setup : Setup) (intrinsic : Intrinsic) (call : PendingCall) (state : State) :
    Outcome :=
  let state := state.note (.intrinsic call)
  match intrinsic with
  | .add => state.runAdd call
  | .print => state.runPrint setup.listener call

/-! ## Functions of the program -/

/-- Carries out the body of a function. -/
def runFunction (setup : Setup) (name : String) (state : State) : Outcome :=
  match setup.program.function name with
  | .ok f => executeAll f.body (state.note (.entered name))
  | .error fault => .stopped state (.fault fault)

/-! ## Dispatch -/

/-- Whether a state has used up the dispatches it may begin. -/
def exhausted (setup : Setup) (state : State) : Bool :=
  setup.limit ≠ 0 && setup.limit ≤ state.dispatches

/-- Carries out a call that was taken from the queue. -/
def dispatch (setup : Setup) (call : PendingCall) (state : State) : Outcome :=
  if setup.exhausted state then .stopped state (.overLimit setup.limit)
  else
    let number := state.dispatches + 1
    let state := { state with dispatches := number }.note (.dispatched number call)
    match Intrinsic.ofName? call.function with
    | some intrinsic => setup.runIntrinsic intrinsic call state
    | none => setup.runFunction call.function state

end Setup

end Dataflow
