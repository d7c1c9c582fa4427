/-!
# Bindings and pending calls

A pending call names a function and the variables it is bound to, each as an input or an output.
Bindings name global variables directly and are captured when the call is made.
`PendingCall.describe` is the one-line text of a call.
-/

set_option autoImplicit false

namespace Dataflow

/-- Whether a call reads or writes a variable it is bound to. -/
inductive Direction where
  | input
  | output
  deriving DecidableEq, Repr

namespace Direction

/-- The word for a direction in programs. -/
def word : Direction → String
  | input => "in"
  | output => "out"

/-- The direction that a word names. -/
def ofWord? (word : String) : Option Direction :=
  if word = "in" then some input else if word = "out" then some output else none

end Direction

/-- A variable that a call is bound to. -/
structure Binding where
  name : String
  direction : Direction
  deriving DecidableEq, Repr

/-- The text of a binding: its direction and its variable. -/
def Binding.describe (b : Binding) : String :=
  b.direction.word ++ " " ++ b.name

/-- A call that waits for its inputs. -/
structure PendingCall where
  function : String
  bindings : List Binding
  deriving DecidableEq, Repr

/-- The text of a call: its function and its bindings in order. -/
def PendingCall.describe (call : PendingCall) : String :=
  call.function ++ "(" ++ ", ".intercalate (call.bindings.map Binding.describe) ++ ")"

end Dataflow
