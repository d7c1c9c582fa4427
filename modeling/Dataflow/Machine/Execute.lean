import Dataflow.Machine.State

/-!
# Carrying out statements

One instruction changes the store, the bindings made for the next call, or the queue; a `call`
only appends to the queue and runs nothing. A fault of an instruction is attributed to the
statement's line, and a body stops at the first statement that fails.
-/

set_option autoImplicit false

namespace Dataflow

/-- A store operation on the store of a state. -/
def State.updateStore (state : State) (result : Except Fault Store) : Outcome :=
  match result with
  | .ok store => .done { state with store }
  | .error fault => .stopped state (.fault fault)

/-- Carries out an instruction. -/
def Instruction.perform (state : State) : Instruction → Outcome
  | .declare name type => state.updateStore (state.store.declare name type)
  | .assign name literal => state.write name (.text literal) true
  | .bind b => .done { state with bindings := state.bindings ++ [b] }
  | .call function => .done { state.enqueue ⟨function, state.bindings⟩ with bindings := [] }
  | .copy target source =>
    match state.store.get source with
    | .ok v => state.write target v.value v.ready
    | .error fault => .stopped state (.fault fault)
  | .delete name => state.updateStore (state.store.delete name)

/-- Attributes a fault to a line, where line 0 stands for none. -/
def Failure.placed (line : Int) : Failure → Failure
  | .fault f => .fault (if line = 0 then f else f.atLine line)
  | failure => failure

/-- Carries out a statement. -/
def Statement.execute (statement : Statement) (state : State) : Outcome :=
  let outcome := statement.instruction.perform (state.note (.executed statement))
  { outcome with failure := outcome.failure.map (Failure.placed statement.line) }

/-- Carries out statements in order, up to the first failure. -/
def executeAll : List Statement → State → Outcome
  | [], state => .done state
  | statement :: rest, state =>
    match statement.execute state with
    | ⟨state, none⟩ => executeAll rest state
    | stopped => stopped

end Dataflow
