import Dataflow.Instruction.Decode
import Dataflow.Proofs.Draining

/-!
# Runs of statements without their lines

What line a statement was read from, and which number the line has, is recorded in the journal and
told by faults, and makes no other difference to a run. Taking the lines and numbers away from a
program, from a state and from an outcome commutes with every operation of a machine, from a single
statement (`Statement.execute_bare`) to a step of draining (`Setup.drain_bare`), and so with whole
runs (`Setup.run_bare`). Programs with the same bare statements therefore run alike but for lines and
numbers (`Setup.run_of_bare_eq`).
-/

set_option autoImplicit false

namespace Dataflow

/-! ## What is taken away -/

/-- The function with its bare statements. -/
def Function.bare (f : Function) : Function := ⟨f.name, [], f.body.map Statement.bare, 0⟩

/-- The functions keep their names and their order. -/
def Program.bare (program : Program) : Program := ⟨program.functions.map Function.bare⟩

/-- The machine of the bare program, with the same limit and listener. -/
def Setup.bare (setup : Setup) : Setup := { setup with program := setup.program.bare }

/-- Only statements that were carried out are recorded with a line. -/
def Event.bare : Event → Event
  | .executed statement => .executed statement.bare
  | event => event

/-- Nothing but the journal refers to lines. -/
def State.bare (state : State) : State :=
  { state with journal := state.journal.map Event.bare }

/-- The cause without the line it is attributed to. -/
def Fault.bare (fault : Fault) : Fault := .unplaced fault.cause

/-- Only faults are attributed to lines. -/
def Failure.bare : Failure → Failure
  | .fault f => .fault f.bare
  | failure => failure

/-- The bare state and the bare failure. -/
def Outcome.bare (outcome : Outcome) : Outcome :=
  ⟨outcome.state.bare, outcome.failure.map Failure.bare⟩

/-- The run in the bare state, or ended with the bare outcome. -/
def Run.bare : Run → Run
  | .draining state => .draining state.bare
  | .ended outcome => .ended outcome.bare

/-! ## Statements -/

namespace State

theorem note_bare (state : State) (event : Event) :
    state.bare.note event.bare = (state.note event).bare := by
  simp only [note, bare, Array.map_push]

theorem move_bare (state : State) (phase : Phase) :
    state.bare.move phase = (state.move phase).bare :=
  note_bare { state with phase } (.moved state.phase phase)

theorem noteSkipped_bare (state : State) (skipped : List PendingCall) :
    state.bare.noteSkipped skipped = (state.noteSkipped skipped).bare := by
  rw [noteSkipped_eq, noteSkipped_eq]
  simp [bare, Function.comp_def, Event.bare]

/-- The fault of a write is attributed to no line. -/
theorem write_bare (state : State) (name : String) (value : Value) (ready : Bool) :
    state.bare.write name value ready = (state.write name value ready).bare := by
  have hstore : state.bare.store = state.store := rfl
  rw [write, write, hstore, Store.write]
  cases state.store.find? name with
  | none => rfl
  | some v =>
    have hnote := note_bare
      { state with store := state.store.modify name fun v => { v with value, ready } }
      (.wrote name value ready)
    exact congrArg Outcome.done hnote

theorem updateStore_bare (state : State) {result : Except Fault Store}
    (h : ∀ fault, result = .error fault → fault.bare = fault) :
    state.bare.updateStore result = (state.updateStore result).bare := by
  cases result with
  | ok store => rfl
  | error fault =>
    have hfault := h fault rfl
    simp only [updateStore, Outcome.stopped, Outcome.bare, Option.map_some, Failure.bare, hfault]

theorem enqueue_bare (state : State) (call : PendingCall) :
    state.bare.enqueue call = (state.enqueue call).bare :=
  note_bare { state with queue := state.queue.enqueue call }
    (.enqueued call (state.queue.length + 1))

theorem emit_bare (state : State) (listener : Option Listener) (value : Value) :
    state.bare.emit listener value = (state.emit listener value).bare := by
  cases listener with
  | none => rfl
  | some listener =>
    have htold : state.bare.told = state.told := rfl
    simp only [emit, htold]
    cases listener.refuses state.told value with
    | none => rfl
    | some refusal => rfl

end State

theorem Instruction.perform_bare (instruction : Instruction) (state : State) :
    instruction.perform state.bare = (instruction.perform state).bare := by
  cases instruction with
  | declare name type =>
    apply State.updateStore_bare
    intro fault h
    rw [Store.declare] at h
    split at h
    · obtain rfl := Except.error.inj h
      rfl
    · cases h
  | assign name literal => exact state.write_bare name (.text literal) true
  | bind b => rfl
  | call function =>
    have hcall := state.enqueue_bare ⟨function, state.bindings⟩
    exact congrArg (fun later : State => Outcome.done { later with bindings := [] }) hcall
  | copy target source =>
    have hstore : state.bare.store = state.store := rfl
    rw [perform, perform, hstore, Store.get]
    cases state.store.find? source with
    | none => rfl
    | some v => exact state.write_bare target v.value v.ready
  | delete name =>
    apply State.updateStore_bare
    intro fault h
    rw [Store.delete] at h
    split at h
    · cases h
    · obtain rfl := Except.error.inj h
      rfl

/-- To what line a failure is attributed makes no difference to the bare failure. -/
theorem Failure.bare_placed (line : Int) (failure : Failure) :
    (failure.placed line).bare = failure.bare := by
  cases failure with
  | fault fault =>
    simp only [placed]
    split
    · rfl
    · rfl
  | refusal refusal => rfl
  | unwritableLimit limit => rfl
  | alreadyRan phase => rfl

/-- No line is known for a call beyond the limit. -/
theorem Failure.bare_overLimit (limit : Int) : (overLimit limit).bare = overLimit limit := by
  rw [overLimit]
  split
  · rfl
  · rfl

/-- A statement without a line leaves failures as they are. -/
theorem Failure.placed_zero (failure : Failure) : failure.placed 0 = failure := by
  cases failure with
  | fault fault => rfl
  | refusal refusal => rfl
  | unwritableLimit limit => rfl
  | alreadyRan phase => rfl

theorem Statement.execute_bare (statement : Statement) (state : State) :
    statement.bare.execute state.bare = (statement.execute state).bare := by
  have hnote : state.bare.note (.executed statement.bare) =
      (state.note (.executed statement)).bare := state.note_bare (.executed statement)
  have hperform := statement.instruction.perform_bare (state.note (.executed statement))
  have hinstruction : statement.bare.instruction = statement.instruction := rfl
  have hline : statement.bare.line = 0 := rfl
  rw [execute, execute, hnote, hinstruction, hperform, hline]
  -- the bare statement attributes a failure to no line, and a line would be taken away again
  simp only [Outcome.bare, Option.map_map, Outcome.mk.injEq, true_and]
  refine congrArg (Option.map · _) ?_
  funext failure
  simp [Failure.placed_zero, Failure.bare_placed]

theorem executeAll_bare (body : List Statement) (state : State) :
    executeAll (body.map Statement.bare) state.bare = (executeAll body state).bare := by
  induction body generalizing state with
  | nil => rfl
  | cons statement rest ih =>
    rw [List.map_cons, executeAll, executeAll, statement.execute_bare state]
    cases statement.execute state with
    | mk next failure =>
      cases failure with
      | none => exact ih next
      | some failure => rfl

/-! ## Dispatches -/

/-- The fault of a sum is attributed to no line. -/
theorem Store.sum_fault_bare {store : Store} {left right : String} {fault : Fault}
    (h : store.sum left right = .error fault) : fault.bare = fault := by
  have hoperand : ∀ {name : String}, store.operand name = .error fault → fault.bare = fault := by
    intro name hname
    rcases operand_eq_error hname with ⟨-, rfl⟩ | ⟨v, -, -, rfl⟩
    · rfl
    · rfl
  rcases sum_eq_error h with hleft | hright
  · exact hoperand hleft
  · exact hoperand hright

namespace State

theorem runAdd_bare (state : State) (call : PendingCall) :
    state.bare.runAdd call = (state.runAdd call).bare := by
  have hstore : state.bare.store = state.store := rfl
  rw [runAdd, runAdd, hstore]
  split
  · next left right target rest hbindings =>
    cases hsum : state.store.sum left.name right.name with
    | ok n => exact state.write_bare target.name (.int n) true
    | error fault =>
      have hfault := Store.sum_fault_bare hsum
      simp only [Outcome.stopped, Outcome.bare, Option.map_some, Failure.bare, hfault]
  · rfl

theorem runPrint_bare (state : State) (listener : Option Listener) (call : PendingCall) :
    state.bare.runPrint listener call = (state.runPrint listener call).bare := by
  have hstore : state.bare.store = state.store := rfl
  rw [runPrint, runPrint, hstore]
  split
  · next source rest hbindings =>
    cases hread : state.store.read source.name with
    | ok value => exact state.emit_bare listener value
    | error fault =>
      obtain ⟨-, rfl⟩ := Store.read_eq_error_iff.1 hread
      rfl
  · rfl

end State

theorem Program.find?_bare (program : Program) (name : String) :
    program.bare.find? name = (program.find? name).map Function.bare := by
  rw [find?, bare, List.find?_map]
  rfl

namespace Setup

theorem runFunction_bare (setup : Setup) (name : String) (state : State) :
    setup.bare.runFunction name state.bare = (setup.runFunction name state).bare := by
  have hfind : setup.bare.program.find? name = (setup.program.find? name).map Function.bare :=
    setup.program.find?_bare name
  rw [runFunction, runFunction, Program.function, Program.function, hfind]
  cases setup.program.find? name with
  | none => rfl
  | some f =>
    have hbody := executeAll_bare f.body (state.note (.entered name))
    rw [← State.note_bare] at hbody
    exact hbody

theorem runIntrinsic_bare (setup : Setup) (intrinsic : Intrinsic) (call : PendingCall)
    (state : State) :
    setup.bare.runIntrinsic intrinsic call state.bare =
      (setup.runIntrinsic intrinsic call state).bare := by
  have hnote : state.bare.note (.intrinsic call) = (state.note (.intrinsic call)).bare :=
    state.note_bare (.intrinsic call)
  cases intrinsic with
  | add =>
    simp only [runIntrinsic, hnote]
    exact State.runAdd_bare (state.note (.intrinsic call)) call
  | print =>
    simp only [runIntrinsic, hnote]
    exact State.runPrint_bare (state.note (.intrinsic call)) setup.listener call

theorem dispatch_bare (setup : Setup) (call : PendingCall) (state : State) :
    setup.bare.dispatch call state.bare = (setup.dispatch call state).bare := by
  have hsame : setup.bare.exhausted state.bare = setup.exhausted state := rfl
  cases hlimit : setup.exhausted state with
  | true =>
    have hfailure := Failure.bare_overLimit setup.limit
    rw [dispatch_of_exhausted call hlimit, dispatch_of_exhausted call (hsame.trans hlimit)]
    exact congrArg (fun failure => Outcome.stopped state.bare failure) hfailure.symm
  | false =>
    have hopening : state.bare.opening call = (state.opening call).bare :=
      State.note_bare { state with dispatches := state.dispatches + 1 } (.dispatched _ call)
    rw [dispatch_of_not_exhausted call hlimit, dispatch_of_not_exhausted call (hsame.trans hlimit),
      hopening]
    cases Intrinsic.ofName? call.function with
    | some intrinsic => exact setup.runIntrinsic_bare intrinsic call (state.opening call)
    | none => exact setup.runFunction_bare call.function (state.opening call)

end Setup

/-! ## Runs -/

namespace Run

theorem fail_bare (state : State) (phase : Phase) (failure : Failure) :
    Run.fail state.bare phase failure.bare = (Run.fail state phase failure).bare :=
  congrArg (fun next => Run.ended (.stopped next failure.bare)) (state.move_bare phase)

theorem afterDispatch_bare (outcome : Outcome) :
    Run.afterDispatch outcome.bare = (Run.afterDispatch outcome).bare := by
  obtain ⟨state, failure⟩ := outcome
  cases failure with
  | none => rfl
  | some failure => exact fail_bare state .failed failure

theorem afterEntry_bare (outcome : Outcome) :
    Run.afterEntry outcome.bare = (Run.afterEntry outcome).bare := by
  obtain ⟨state, failure⟩ := outcome
  cases failure with
  | none => exact congrArg Run.draining (state.move_bare .draining)
  | some failure => exact fail_bare state .failed failure

end Run

namespace Setup

/-- One step of draining. The scan looks at the queue and the store, which stay as they are. -/
theorem drain_bare (setup : Setup) (state : State) :
    setup.bare.drain state.bare = (setup.drain state).bare := by
  have hstep := setup.drained state
  generalize setup.drain state = next at hstep
  cases hstep with
  | halted hqueue =>
    have hhalt : Run.halt state.bare = (Run.halt state).bare :=
      congrArg (fun next => Run.ended (.done next)) (state.move_bare .halted)
    have hbare : Drained setup.bare state.bare _ := .halted hqueue
    rw [← hhalt, hbare.drain_eq]
  | stuck hqueue hnone =>
    have hbare : Drained setup.bare state.bare _ := .stuck hqueue hnone
    rw [← Run.fail_bare, ← State.noteSkipped_bare, hbare.drain_eq]
    rfl
  | faulty hqueue hbefore hcall =>
    have hbare : Drained setup.bare state.bare _ := .faulty hqueue hbefore hcall
    obtain ⟨b, -, -, rfl⟩ := exists_of_eligibleBindings_eq_error hcall
    rw [← Run.fail_bare, ← State.noteSkipped_bare, hbare.drain_eq]
    rfl
  | @dispatched before after call hqueue hbefore hcall =>
    have htaking : state.bare.taking before after = (state.taking before after).bare := by
      rw [State.taking, State.noteSkipped_bare]
      rfl
    have hbare : Drained setup.bare state.bare _ := .dispatched hqueue hbefore hcall
    rw [← Run.afterDispatch_bare, ← dispatch_bare, ← htaking, hbare.drain_eq]

theorem start_bare (setup : Setup) (state : State) :
    setup.bare.start state.bare = (setup.start state).bare := by
  by_cases hphase : state.phase = .initializing
  · have hbare : state.bare.phase = .initializing := hphase
    have hentry := setup.runFunction_bare entryName (state.move .running)
    rw [← State.move_bare] at hentry
    rw [setup.start_of_initializing hphase, setup.bare.start_of_initializing hbare, hentry,
      Run.afterEntry_bare]
  · have hsame : state.bare.phase = state.phase := rfl
    rw [start, start, hsame]
    cases hother : state.phase with
    | initializing => exact absurd hother hphase
    | running | draining | halted | deadlocked | failed => rfl

theorem advance_bare (setup : Setup) (steps : Nat) (run : Run) :
    setup.bare.advance steps run.bare = (setup.advance steps run).bare := by
  induction steps generalizing run with
  | zero => rfl
  | succ steps ih =>
    cases run with
    | ended outcome => rfl
    | draining state =>
      rw [advance, ← ih, ← drain_bare]
      rfl

theorem run_bare (setup : Setup) (steps : Nat) (state : State) :
    setup.bare.run steps state.bare = (setup.run steps state).map Outcome.bare := by
  rw [run, run, start_bare, advance_bare]
  cases setup.advance steps (setup.start state) with
  | draining later => rfl
  | ended outcome => rfl

/-- Programs with the same bare statements run alike but for lines and numbers. -/
theorem run_of_bare_eq {program program' : Program} (h : program.bare = program'.bare) (limit : Int)
    (listener : Option Listener) (steps : Nat) (state : State) :
    (run ⟨program, limit, listener⟩ steps state).map Outcome.bare =
      (run ⟨program', limit, listener⟩ steps state).map Outcome.bare := by
  have hsetup : (Setup.mk program limit listener).bare = (Setup.mk program' limit listener).bare :=
    congrArg (Setup.mk · limit listener) h
  rw [← run_bare, ← run_bare, hsetup]

end Setup

end Dataflow
