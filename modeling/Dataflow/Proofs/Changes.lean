import Mathlib.Logic.Relation
import Dataflow.Proofs.Stages

/-!
# What operations are made of

`Setup.Change` lists the single changes that carrying something out makes to a state, and every
operation is a sequence of them, from a write (`State.write_changes`) to a dispatch
(`Setup.dispatch_changes`), whether it fails or not. What relates the states around each single
change, and is passed on from one change to the next, relates those around every operation
(`Setup.Changes.relate`).
-/

set_option autoImplicit false

namespace Dataflow

namespace Setup

/-- A single change that is made in carrying something out. -/
inductive Change (setup : Setup) (state : State) : State → Prop where
  | executed (statement : Statement) : Change setup state (state.note (.executed statement))
  | entered (name : String) : Change setup state (state.note (.entered name))
  | intrinsic (call : PendingCall) : Change setup state (state.note (.intrinsic call))
  | wrote (store : Store) (name : String) (value : Value) (ready : Bool) :
      Change setup state ({ state with store }.note (.wrote name value ready))
  | stored (store : Store) : Change setup state { state with store }
  | bound (bindings : List Binding) : Change setup state { state with bindings }
  | enqueued (call : PendingCall) : Change setup state (state.enqueue call)
  | emitted (value : Value) : Change setup state (state.emit setup.listener value).state
  | begun (call : PendingCall) (hfree : setup.exhausted state = false) :
      Change setup state (state.opening call)

/-- Single changes, one after the other. -/
abbrev Changes (setup : Setup) : State → State → Prop := Relation.ReflTransGen setup.Change

/-- What relates the states around each change relates those around many. -/
theorem Changes.relate {setup : Setup} {R : State → State → Prop} (hrefl : ∀ state, R state state)
    (htrans : ∀ {earlier middle later}, R earlier middle → R middle later → R earlier later)
    (hchange : ∀ {state next}, setup.Change state next → R state next) {state next : State}
    (h : setup.Changes state next) : R state next := by
  induction h with
  | refl => exact hrefl state
  | tail _ hlast ih => exact htrans ih (hchange hlast)

end Setup

section Operations

variable (setup : Setup)

/-! ## Statements -/

theorem State.write_changes (state : State) (name : String) (value : Value) (ready : Bool) :
    setup.Changes state (state.write name value ready).state := by
  rw [State.write]
  cases state.store.write name value ready with
  | error fault => exact .refl
  | ok store => exact .single (.wrote store name value ready)

theorem State.updateStore_changes (state : State) (result : Except Fault Store) :
    setup.Changes state (state.updateStore result).state := by
  cases result with
  | error fault => exact .refl
  | ok store => exact .single (.stored store)

theorem Instruction.perform_changes (instruction : Instruction) (state : State) :
    setup.Changes state (instruction.perform state).state := by
  cases instruction with
  | declare name type => exact state.updateStore_changes setup _
  | assign name literal => exact state.write_changes setup name (.text literal) true
  | bind b => exact .single (.bound _)
  | call function =>
    have hjoined : setup.Changes state (state.enqueue ⟨function, state.bindings⟩) :=
      .single (.enqueued _)
    exact hjoined.tail (.bound [])
  | copy target source =>
    rw [Instruction.perform]
    cases state.store.get source with
    | error fault => exact .refl
    | ok v => exact state.write_changes setup target v.value v.ready
  | delete name => exact state.updateStore_changes setup _

theorem Statement.execute_changes (statement : Statement) (state : State) :
    setup.Changes state (statement.execute state).state :=
  .head (.executed statement) (statement.instruction.perform_changes setup _)

theorem executeAll_changes (body : List Statement) (state : State) :
    setup.Changes state (executeAll body state).state := by
  induction body generalizing state with
  | nil => exact .refl
  | cons statement rest ih =>
    have hfirst := statement.execute_changes setup state
    cases hfails : (statement.execute state).failure with
    | some failure =>
      rw [executeAll_cons_stopped hfails]
      exact hfirst
    | none =>
      rw [executeAll_cons_done (Outcome.eq_done hfails)]
      exact hfirst.trans (ih _)

/-! ## Dispatches -/

theorem State.runAdd_changes (state : State) (call : PendingCall) :
    setup.Changes state (state.runAdd call).state := by
  rw [State.runAdd]
  split
  · next left right target rest hbindings =>
    split
    · next n hsum => exact state.write_changes setup target.name (.int n) true
    · exact .refl
  · exact .refl

theorem State.runPrint_changes (state : State) (call : PendingCall) :
    setup.Changes state (state.runPrint setup.listener call).state := by
  rw [State.runPrint]
  split
  · next source rest hbindings =>
    cases state.store.read source.name with
    | ok value => exact .single (.emitted value)
    | error fault => exact .refl
  · exact .refl

namespace Setup

theorem runIntrinsic_changes (intrinsic : Intrinsic) (call : PendingCall) (state : State) :
    setup.Changes state (setup.runIntrinsic intrinsic call state).state := by
  cases intrinsic with
  | add => exact .head (.intrinsic call) (State.runAdd_changes setup _ call)
  | print => exact .head (.intrinsic call) (State.runPrint_changes setup _ call)

theorem runFunction_changes (name : String) (state : State) :
    setup.Changes state (setup.runFunction name state).state := by
  cases hfind : setup.program.find? name with
  | none =>
    rw [runFunction, Program.function, hfind]
    exact .refl
  | some f =>
    rw [runFunction_of_find? hfind]
    exact .head (.entered name) (executeAll_changes setup f.body _)

/-- A dispatch that is refused changes nothing. -/
theorem dispatch_changes (call : PendingCall) (state : State) :
    setup.Changes state (setup.dispatch call state).state := by
  cases hlimit : setup.exhausted state with
  | true =>
    rw [dispatch_of_exhausted call hlimit]
    exact .refl
  | false =>
    have hbegun : setup.Changes state (state.opening call) := .single (.begun call hlimit)
    rw [dispatch_of_not_exhausted call hlimit]
    cases Intrinsic.ofName? call.function with
    | some intrinsic => exact hbegun.trans (setup.runIntrinsic_changes intrinsic call _)
    | none => exact hbegun.trans (setup.runFunction_changes call.function _)

end Setup

end Operations

end Dataflow
