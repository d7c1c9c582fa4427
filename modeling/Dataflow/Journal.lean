import Dataflow.Instruction
import Dataflow.Phase
import Dataflow.Value

/-!
# The journal

Reading a program and running it leave a record of every step. An `Event` holds what happened;
`Event.render` is its line in a log, made of the level, the channel of the part that reports it and
the message.
-/

set_option autoImplicit false

namespace Dataflow

/-- A step worth recording. -/
inductive Event where
  /-- A function was read. -/
  | registered (name : String) (statements : Nat)
  /-- A program was read. -/
  | catalogued (names : List String)
  /-- A machine changed its phase. -/
  | moved (before after : Phase)
  /-- A function body was entered. -/
  | entered (name : String)
  /-- A statement is carried out. -/
  | executed (statement : Statement)
  /-- A variable was written. -/
  | wrote (name : String) (value : Value) (ready : Bool)
  /-- A call joined the queue, which then had the given length. -/
  | enqueued (call : PendingCall) (length : Nat)
  /-- A scan passed over a call. -/
  | skipped (call : PendingCall)
  /-- The call with the given number in order of dispatch is carried out. -/
  | dispatched (number : Nat) (call : PendingCall)
  /-- A call of an intrinsic function is carried out. -/
  | intrinsic (call : PendingCall)
  /-- A run halted. -/
  | finished (dispatches : Nat)
  deriving DecidableEq, Repr

namespace Event

/-- The channel on which an event is reported. -/
def channel : Event → String
  | registered _ _ => "aeolis.il.registry"
  | catalogued _ => "aeolis.orchestration"
  | moved _ _ => "aeolis.runtime.machine"
  | entered _ => "aeolis.runtime.machine"
  | executed _ => "aeolis.runtime.commands"
  | wrote _ _ _ => "aeolis.runtime.store"
  | enqueued _ _ => "aeolis.runtime.scheduler"
  | skipped _ => "aeolis.runtime.scheduler"
  | dispatched _ _ => "aeolis.runtime.machine"
  | intrinsic _ => "aeolis.runtime.intrinsics"
  | finished _ => "aeolis.orchestration"

/-- The wording of an event. -/
def message : Event → String
  | registered name statements =>
    "Registered function " ++ name ++ " (" ++ Nat.repr statements ++ " instructions)"
  | catalogued names => "Registered functions: " ++ ", ".intercalate names
  | moved before after => "State " ++ before.word ++ " -> " ++ after.word
  | entered name => "Running function " ++ name
  | executed statement => "exec " ++ statement.text
  | wrote name value ready =>
    name ++ " <- " ++ value.shown ++ " (ready=" ++ Value.truthWord ready ++ ")"
  | enqueued call length => "Enqueued " ++ call.describe ++ " (queue=" ++ Nat.repr length ++ ")"
  | skipped call => "Skipping " ++ call.describe ++ ": not eligible"
  | dispatched number call => "Dispatch #" ++ Nat.repr number ++ ": " ++ call.describe
  | intrinsic call => "intrinsic " ++ call.describe
  | finished dispatches => "Run halted after " ++ Nat.repr dispatches ++ " dispatches"

/-- The line of an event in a log. -/
def render (event : Event) : String :=
  "DEBUG " ++ event.channel ++ ": " ++ event.message

end Event

end Dataflow
