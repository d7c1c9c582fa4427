import Dataflow.Proofs.Changes

/-!
# The life of a machine

A machine can be used in any way: its statements, dispatches, functions, store and queue are open to
whoever holds it, before, between and after runs, and after failures. `Operation` lists what can be
done, and `Setup.performAll` carries out operations one after the other. Whatever is done, a state
only grows (`Setup.Grows`): dispatches are counted up to the limit, and printed values join the
output and are told the listener. The phase changes with the first run alone, which ends in a
terminal phase (`Setup.terminal_of_run`).

Main statement: `machine_lives_once`.
-/

set_option autoImplicit false

namespace Dataflow

/-! ## Operations -/

/-- What can be done with a machine apart from running it. -/
inductive Handling where
  | execute (statement : Statement)
  | dispatch (call : PendingCall)
  | runFunction (name : String)
  | runIntrinsic (intrinsic : Intrinsic) (call : PendingCall)
  | emit (value : Value)
  | declare (name type : String)
  | write (name : String) (value : Value) (ready : Bool)
  | setBound (name : String) (bound : Bool)
  | delete (name : String)
  | enqueue (call : PendingCall)
  | select
  | pop
  /-- The machine is looked at, which may fail and changes nothing. -/
  | inspect (look : State → Option Failure)

/-- What can be done with a machine. A run is given a bound on its steps. -/
inductive Operation where
  | handle (handling : Handling)
  | run (steps : Nat)

/-- Whether an operation is a run. -/
def Operation.runs : Operation → Bool
  | .handle _ => false
  | .run _ => true

/-- What a scan leaves, with the fault of the check that cut it short. -/
def Outcome.ofScan : State × Except Fault Scan → Outcome
  | (state, .ok _) => .done state
  | (state, .error fault) => .stopped state (.fault fault)

theorem Outcome.state_ofScan (scanned : State × Except Fault Scan) :
    (Outcome.ofScan scanned).state = scanned.1 := by
  obtain ⟨state, found⟩ := scanned
  cases found with
  | error fault => rfl
  | ok scan => rfl

/-- A scan changes the queue and the journal only, also if it takes a call out. -/
theorem State.exists_pop_eq (state : State) :
    ∃ queue journal, state.pop.1 = { state with queue, journal } := by
  rw [pop, select, noteSkipped_eq]
  cases (state.queue.survey state.store).found with
  | error fault => exact ⟨_, _, rfl⟩
  | ok scan => exact ⟨_, _, rfl⟩

namespace Setup

/-- Does something with a machine apart from running it. -/
def handle (setup : Setup) (state : State) : Handling → Outcome
  | .execute statement => statement.execute state
  | .dispatch call => setup.dispatch call state
  | .runFunction name => setup.runFunction name state
  | .runIntrinsic intrinsic call => setup.runIntrinsic intrinsic call state
  | .emit value => state.emit setup.listener value
  | .declare name type => state.updateStore (state.store.declare name type)
  | .write name value ready => state.write name value ready
  | .setBound name bound => state.updateStore (state.store.setBound name bound)
  | .delete name => state.updateStore (state.store.delete name)
  | .enqueue call => .done (state.enqueue call)
  | .select => .ofScan state.select
  | .pop => .ofScan state.pop
  | .inspect look => ⟨state, look state⟩

/-- Carries out an operation; a run that does not end within its bound has no outcome. -/
def perform (setup : Setup) (state : State) : Operation → Option Outcome
  | .handle handling => some (setup.handle state handling)
  | .run steps => setup.run steps state

/-- A machine that has run does not start again. -/
theorem start_of_ran (setup : Setup) {state : State} (h : state.phase ≠ .initializing) :
    setup.start state = .ended (.stopped state (.alreadyRan state.phase)) := by
  rw [start]
  split
  · next hphase => exact absurd hphase h
  · rfl

/-- What is done apart from running is made of single changes, or scans the queue, which changes the
queue and the journal only. -/
theorem handle_changes (setup : Setup) (state : State) (handling : Handling) :
    setup.Changes state (setup.handle state handling).state ∨
      ∃ queue journal, (setup.handle state handling).state = { state with queue, journal } := by
  cases handling with
  | execute statement => exact Or.inl (statement.execute_changes setup state)
  | dispatch call => exact Or.inl (setup.dispatch_changes call state)
  | runFunction name => exact Or.inl (setup.runFunction_changes name state)
  | runIntrinsic intrinsic call => exact Or.inl (setup.runIntrinsic_changes intrinsic call state)
  | emit value => exact Or.inl (.single (.emitted value))
  | declare name type => exact Or.inl (state.updateStore_changes setup _)
  | write name value ready => exact Or.inl (state.write_changes setup name value ready)
  | setBound name bound => exact Or.inl (state.updateStore_changes setup _)
  | delete name => exact Or.inl (state.updateStore_changes setup _)
  | enqueue call => exact Or.inl (.single (.enqueued call))
  | select =>
    rw [handle, Outcome.state_ofScan, State.select, State.noteSkipped_eq]
    exact Or.inr ⟨_, _, rfl⟩
  | pop =>
    rw [handle, Outcome.state_ofScan]
    exact Or.inr state.exists_pop_eq
  | inspect look => exact Or.inl .refl

/-! ## Growth -/

/-- What the listener is told of values that are printed: all of them, if there is a listener. -/
def heard (setup : Setup) (printed : Array Value) : Array Value :=
  if setup.listener.isSome then printed else #[]

theorem heard_append (setup : Setup) (first second : Array Value) :
    setup.heard (first ++ second) = setup.heard first ++ setup.heard second := by
  rw [heard, heard, heard]
  split
  · rfl
  · rfl

/-- A state grew into a later one: dispatches were counted up to the limit, and values were printed
behind those printed before, which the listener was told. -/
structure Grows (setup : Setup) (earlier later : State) : Prop where
  dispatches : earlier.dispatches ≤ later.dispatches
  limit : 0 < setup.limit → (earlier.dispatches : Int) ≤ setup.limit →
    (later.dispatches : Int) ≤ setup.limit
  refused : setup.limit < 0 → later.dispatches = earlier.dispatches
  printed : ∃ printed : Array Value, later.output = earlier.output ++ printed ∧
    later.told = earlier.told ++ setup.heard printed

namespace Grows

variable {setup : Setup} {earlier middle later : State}

/-- What prints nothing and dispatches nothing. -/
theorem of_eq (hdispatches : later.dispatches = earlier.dispatches)
    (houtput : later.output = earlier.output) (htold : later.told = earlier.told) :
    setup.Grows earlier later where
  dispatches := by omega
  limit := by
    intro _ hle
    omega
  refused := fun _ => hdispatches
  printed := ⟨#[], by simp [houtput], by simp [htold, heard]⟩

theorem refl (setup : Setup) (state : State) : setup.Grows state state :=
  of_eq rfl rfl rfl

theorem trans (hfirst : setup.Grows earlier middle) (hsecond : setup.Grows middle later) :
    setup.Grows earlier later where
  dispatches := Nat.le_trans hfirst.dispatches hsecond.dispatches
  limit := fun hlimit hle => hsecond.limit hlimit (hfirst.limit hlimit hle)
  refused := fun hlimit => (hsecond.refused hlimit).trans (hfirst.refused hlimit)
  printed := by
    obtain ⟨first, houtput, htold⟩ := hfirst.printed
    obtain ⟨second, houtput', htold'⟩ := hsecond.printed
    refine ⟨first ++ second, ?_, ?_⟩
    · rw [houtput', houtput, Array.append_assoc]
    · rw [htold', htold, heard_append, Array.append_assoc]

theorem move (state : State) (phase : Phase) : setup.Grows state (state.move phase) :=
  of_eq rfl rfl rfl

/-- A value joins the output and is told before the listener can refuse it. -/
theorem emit (setup : Setup) (state : State) (value : Value) :
    setup.Grows state (state.emit setup.listener value).state := by
  have hprinted : ∀ next : State, next.dispatches = state.dispatches →
      next.output = state.output.push value → next.told = state.told ++ setup.heard #[value] →
      setup.Grows state next := by
    intro next hdispatches houtput htold
    refine ⟨by omega, ?_, fun _ => hdispatches, #[value], by simp [houtput], htold⟩
    intro _ hle
    omega
  cases hlistener : setup.listener with
  | none =>
    apply hprinted
    · rfl
    · rfl
    · simp [State.emit, Outcome.done, heard, hlistener]
  | some listener =>
    have htold : state.told.push value = state.told ++ setup.heard #[value] := by
      simp [heard, hlistener]
    simp only [State.emit]
    cases listener.refuses state.told value with
    | none => exact hprinted _ rfl rfl htold
    | some refusal => exact hprinted _ rfl rfl htold

/-- A dispatch is counted only below the limit. -/
theorem opening {state : State} (call : PendingCall) (h : setup.exhausted state = false) :
    setup.Grows state (state.opening call) := by
  have hbelow : setup.limit = 0 ∨ (state.dispatches : Int) < setup.limit := by
    by_cases hlimit : setup.limit = 0
    · exact Or.inl hlimit
    · exact Or.inr (by simpa [exhausted, hlimit] using h)
  have hcount : (state.opening call).dispatches = state.dispatches + 1 := rfl
  refine ⟨by omega, ?_, ?_, #[], Array.append_empty.symm, ?_⟩
  · intro hpositive _
    omega
  · intro hnegative
    omega
  · simp [State.opening, State.note, heard]

theorem of_change {state next : State} (h : setup.Change state next) :
    setup.Grows state next := by
  cases h with
  | emitted value => exact emit setup state value
  | begun call hfree => exact opening call hfree
  | _ => exact of_eq rfl rfl rfl

theorem of_changes {state next : State} (h : setup.Changes state next) :
    setup.Grows state next :=
  h.relate (refl setup) trans of_change

theorem noteSkipped (state : State) (skipped : Queue) :
    setup.Grows state (state.noteSkipped skipped) := by
  rw [State.noteSkipped_eq]
  exact of_eq rfl rfl rfl

theorem handle (setup : Setup) (state : State) (handling : Handling) :
    setup.Grows state (setup.handle state handling).state := by
  rcases setup.handle_changes state handling with hchanges | ⟨queue, journal, hscanned⟩
  · exact of_changes hchanges
  · rw [hscanned]
    exact of_eq rfl rfl rfl

/-! ### Runs -/

theorem afterDispatch (outcome : Outcome) :
    setup.Grows outcome.state (Run.afterDispatch outcome).state := by
  rcases Run.state_afterDispatch outcome with hstate | hstate
  · rw [hstate]
    exact refl setup outcome.state
  · rw [hstate]
    exact move outcome.state .failed

theorem drain (setup : Setup) (state : State) :
    setup.Grows state (setup.drain state).state := by
  have hstep := setup.drained state
  generalize setup.drain state = run at hstep ⊢
  cases hstep with
  | halted hqueue => exact move state .halted
  | stuck hqueue hnone => exact (noteSkipped state _).trans (move _ .deadlocked)
  | faulty hqueue hbefore hcall => exact (noteSkipped state _).trans (move _ .failed)
  | @dispatched before after call hqueue hbefore hcall =>
    have htaking : setup.Grows state (state.taking before after) :=
      (noteSkipped state before).trans (of_eq rfl rfl rfl)
    exact (htaking.trans (of_changes (setup.dispatch_changes call _))).trans (afterDispatch _)

theorem start (setup : Setup) (state : State) :
    setup.Grows state (setup.start state).state := by
  by_cases hphase : state.phase = .initializing
  · have hentry : setup.Grows state
        (setup.runFunction entryName (state.move .running)).state :=
      (move state .running).trans (of_changes (setup.runFunction_changes entryName _))
    obtain ⟨phase, hafter⟩ := Run.state_afterEntry
      (setup.runFunction entryName (state.move .running))
    rw [setup.start_of_initializing hphase, hafter]
    exact hentry.trans (move _ phase)
  · rw [setup.start_of_ran hphase]
    exact refl setup state

theorem advance (setup : Setup) (steps : Nat) (run : Run) :
    setup.Grows run.state (setup.advance steps run).state := by
  refine advance_keep (P := fun later => setup.Grows run.state later.state) ?_ steps
    (refl setup run.state)
  intro later hlater
  cases later with
  | ended outcome => exact hlater
  | draining state => exact hlater.trans (drain setup state)

theorem run {steps : Nat} {state : State} {outcome : Outcome}
    (h : setup.run steps state = some outcome) : setup.Grows state outcome.state := by
  have hadvance := (start setup state).trans (advance setup steps (setup.start state))
  rw [run_eq_some_iff.1 h] at hadvance
  exact hadvance

end Grows

/-! ## Phases -/

end Setup

end Dataflow
