/-!
# Phases of a machine

A machine is made in the phase `initializing`, runs its entry function, drains its queue, and ends
in one of three terminal phases.
-/

set_option autoImplicit false

namespace Dataflow

/-- Where a machine is in its life. -/
inductive Phase where
  | initializing
  | running
  | draining
  | halted
  | deadlocked
  | failed
  deriving DecidableEq, Repr

namespace Phase

/-- The word for a phase. -/
def word : Phase → String
  | initializing => "initializing"
  | running => "running"
  | draining => "draining"
  | halted => "halted"
  | deadlocked => "deadlocked"
  | failed => "failed"

end Phase

end Dataflow
