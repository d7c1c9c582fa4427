import Mathlib.Logic.Equiv.Basic
import Dataflow.Proofs.Stages

/-!
# Renaming

Names only serve to tell variables and functions apart, and the type of a variable is never looked
at. A `Renaming` gives variables and functions other names, no two of them the same, and leaves the
entry function and the intrinsic ones alone; types may go to any words. Renaming acts on programs,
on states with all that is in them, and on failures. Each operation of a machine commutes with it,
from the lookup of a variable (`Store.find?_rename`) to a step of draining (`Setup.drain_rename`),
and so do whole runs (`Setup.advance_rename`).

Main statement: `renamed_run_goes_alike`.
-/

set_option autoImplicit false

namespace Dataflow

/-! ## Renamings -/

/-- Other names for variables and functions, other words for types, and the source lines of the
statements that are made of them. -/
structure Renaming where
  variableName : String → String
  functionName : String → String
  typeWord : String → String
  text : Statement → String
  variableName_injective : Function.Injective variableName
  functionName_injective : Function.Injective functionName
  functionName_entry : functionName entryName = entryName
  functionName_intrinsic : ∀ intrinsic : Intrinsic, functionName intrinsic.name = intrinsic.name

/-! ## What renaming does -/

/-- The binding of the renamed variable, in the same direction. -/
def Binding.rename (r : Renaming) (b : Binding) : Binding :=
  { b with name := r.variableName b.name }

/-- The call of the renamed function with the renamed variables. -/
def PendingCall.rename (r : Renaming) (call : PendingCall) : PendingCall :=
  ⟨r.functionName call.function, call.bindings.map (Binding.rename r)⟩

/-- Literals and directions stay as they are. -/
def Instruction.rename (r : Renaming) : Instruction → Instruction
  | .declare name type => .declare (r.variableName name) (r.typeWord type)
  | .assign name literal => .assign (r.variableName name) literal
  | .bind b => .bind (b.rename r)
  | .call function => .call (r.functionName function)
  | .copy target source => .copy (r.variableName target) (r.variableName source)
  | .delete name => .delete (r.variableName name)

/-- A statement keeps the number of its line. -/
def Statement.rename (r : Renaming) (statement : Statement) : Statement :=
  ⟨statement.instruction.rename r, r.text statement, statement.line⟩

/-- The function under its new name, with its statements renamed. -/
def Function.rename (r : Renaming) (f : Function) : Function :=
  ⟨r.functionName f.name, f.body.map r.text, f.body.map (Statement.rename r), f.line⟩

/-- The renamed functions in the same order. -/
def Program.rename (r : Renaming) (program : Program) : Program :=
  ⟨program.functions.map (Function.rename r)⟩

/-- The machine of the renamed program, with the same limit and listener. -/
def Setup.rename (r : Renaming) (setup : Setup) : Setup :=
  { setup with program := setup.program.rename r }

/-- The variable under its new name, of the new type, and otherwise the same. -/
def Variable.rename (r : Renaming) (v : Variable) : Variable :=
  { v with name := r.variableName v.name, type := r.typeWord v.type }

/-- The variables keep their order. -/
def Store.rename (r : Renaming) (store : Store) : Store :=
  ⟨store.entries.map (Variable.rename r)⟩

/-- Renames what a cause says of variables and functions; what can be wrong with program lines or
settings does not come up in runs. -/
def Cause.rename (r : Renaming) : Cause → Cause
  | .alreadyDeclared name => .alreadyDeclared (r.variableName name)
  | .unknownVariable name => .unknownVariable (r.variableName name)
  | .unknownFunction name => .unknownFunction (r.functionName name)
  | .invalidOperand name value => .invalidOperand (r.variableName name) value
  | .intrinsicArity name expected got => .intrinsicArity (r.functionName name) expected got
  | cause => cause

/-- A fault stays on its line. -/
def Fault.rename (r : Renaming) (fault : Fault) : Fault :=
  { fault with cause := fault.cause.rename r }

/-- Only faults name variables or functions. -/
def Failure.rename (r : Renaming) : Failure → Failure
  | .fault f => .fault (f.rename r)
  | failure => failure

/-- What was recorded, with the new names. -/
def Event.rename (r : Renaming) : Event → Event
  | .registered name statements => .registered (r.functionName name) statements
  | .catalogued names => .catalogued (names.map r.functionName)
  | .entered name => .entered (r.functionName name)
  | .executed statement => .executed (statement.rename r)
  | .wrote name value ready => .wrote (r.variableName name) value ready
  | .enqueued call length => .enqueued (call.rename r) length
  | .skipped call => .skipped (call.rename r)
  | .dispatched number call => .dispatched number (call.rename r)
  | .intrinsic call => .intrinsic (call.rename r)
  | event => event

/-- The phase, the values printed and told, and the number of dispatches stay as they are. -/
def State.rename (r : Renaming) (state : State) : State :=
  { state with
    store := state.store.rename r
    queue := state.queue.map (PendingCall.rename r)
    bindings := state.bindings.map (Binding.rename r)
    journal := state.journal.map (Event.rename r) }

/-- The renamed state and the renamed failure. -/
def Outcome.rename (r : Renaming) (outcome : Outcome) : Outcome :=
  ⟨outcome.state.rename r, outcome.failure.map (Failure.rename r)⟩

/-- The run in the renamed state, or ended with the renamed outcome. -/
def Run.rename (r : Renaming) : Run → Run
  | .draining state => .draining (state.rename r)
  | .ended outcome => .ended (outcome.rename r)

/-- A result whose faults are renamed. -/
def Renaming.result (r : Renaming) {α β : Type} (change : α → β) :
    Except Fault α → Except Fault β
  | .ok a => .ok (change a)
  | .error fault => .error (fault.rename r)

section Operations

variable (r : Renaming)

/-! ## Stores -/

namespace Store

/-- A variable is found under its new name where it was found under its old one. -/
theorem find?_rename (store : Store) (name : String) :
    (store.rename r).find? (r.variableName name) = (store.find? name).map (Variable.rename r) := by
  have hcomp : (fun v : Variable => decide (v.name = r.variableName name)) ∘ Variable.rename r =
      fun v => decide (v.name = name) := by
    funext v
    exact decide_eq_decide.2 r.variableName_injective.eq_iff
  rw [find?, rename, List.find?_map, hcomp]
  rfl

theorem contains_rename (store : Store) (name : String) :
    (store.rename r).contains (r.variableName name) = store.contains name := by
  rw [contains, find?_rename, Option.isSome_map]
  rfl

theorem get_rename (store : Store) (name : String) :
    (store.rename r).get (r.variableName name) = r.result (Variable.rename r) (store.get name) := by
  rw [get, get, find?_rename]
  cases store.find? name with
  | some v => rfl
  | none => rfl

theorem read_rename (store : Store) (name : String) :
    (store.rename r).read (r.variableName name) = r.result id (store.read name) := by
  rw [read, read, get_rename]
  cases store.get name with
  | ok v => rfl
  | error fault => rfl

theorem declare_rename (store : Store) (name type : String) :
    (store.rename r).declare (r.variableName name) (r.typeWord type) =
      r.result (Store.rename r) (store.declare name type) := by
  rw [declare, declare, contains_rename]
  split
  · rfl
  · simp only [Renaming.result, rename, List.map_append]
    rfl

theorem modify_rename (store : Store) (name : String) {change : Variable → Variable}
    (hchange : ∀ v, change (v.rename r) = (change v).rename r) :
    (store.rename r).modify (r.variableName name) change = (store.modify name change).rename r := by
  rw [modify, modify, rename, rename, List.map_map, List.map_map]
  refine congrArg Store.mk (List.map_congr_left fun v _ => ?_)
  simp only [Function.comp_apply]
  -- the new names are equal just when the old ones are
  by_cases hname : v.name = name
  · have hnew : (v.rename r).name = r.variableName name := congrArg r.variableName hname
    rw [if_pos hname, if_pos hnew, hchange]
  · have hnew : (v.rename r).name ≠ r.variableName name :=
      fun h => hname (r.variableName_injective h)
    rw [if_neg hname, if_neg hnew]

theorem write_rename (store : Store) (name : String) (value : Value) (ready : Bool) :
    (store.rename r).write (r.variableName name) value ready =
      r.result (Store.rename r) (store.write name value ready) := by
  rw [write, write, find?_rename]
  cases store.find? name with
  | none => rfl
  | some v => exact congrArg Except.ok (modify_rename r store name fun _ => rfl)

theorem delete_rename (store : Store) (name : String) :
    (store.rename r).delete (r.variableName name) =
      r.result (Store.rename r) (store.delete name) := by
  rw [delete, delete, contains_rename]
  split
  · rw [rename, Renaming.result, rename, List.filter_map]
    have hcomp : (fun v : Variable => decide (v.name ≠ r.variableName name)) ∘ Variable.rename r =
        fun v => decide (v.name ≠ name) := by
      funext v
      exact decide_eq_decide.2 r.variableName_injective.ne_iff
    rw [hcomp]
  · rfl

theorem operand_rename (store : Store) (name : String) :
    (store.rename r).operand (r.variableName name) = r.result id (store.operand name) := by
  rw [operand, operand, read_rename]
  cases store.read name with
  | error fault => rfl
  | ok value =>
    simp only [Renaming.result, id]
    cases value.toInt? with
    | some n => rfl
    | none => rfl

theorem sum_rename (store : Store) (left right : String) :
    (store.rename r).sum (r.variableName left) (r.variableName right) =
      r.result id (store.sum left right) := by
  rw [sum, sum, operand_rename, operand_rename]
  cases store.operand left with
  | error fault => rfl
  | ok a =>
    cases store.operand right with
    | error fault => rfl
    | ok b => rfl

end Store

/-! ## Statements -/

namespace State

theorem note_rename (state : State) (event : Event) :
    (state.rename r).note (event.rename r) = (state.note event).rename r := by
  simp only [note, rename, Array.map_push]

theorem move_rename (state : State) (phase : Phase) :
    (state.rename r).move phase = (state.move phase).rename r :=
  note_rename r { state with phase } (.moved state.phase phase)

theorem noteSkipped_rename (state : State) (skipped : List PendingCall) :
    (state.rename r).noteSkipped (skipped.map (PendingCall.rename r)) =
      (state.noteSkipped skipped).rename r := by
  rw [noteSkipped_eq, noteSkipped_eq]
  simp [rename, Function.comp_def, Event.rename]

theorem write_rename (state : State) (name : String) (value : Value) (ready : Bool) :
    (state.rename r).write (r.variableName name) value ready =
      (state.write name value ready).rename r := by
  have hstore : (state.rename r).store = state.store.rename r := rfl
  rw [write, write, hstore, Store.write_rename]
  cases state.store.write name value ready with
  | error fault => rfl
  | ok store =>
    exact congrArg Outcome.done (note_rename r { state with store } (.wrote name value ready))

theorem updateStore_rename (state : State) (result : Except Fault Store) :
    (state.rename r).updateStore (r.result (Store.rename r) result) =
      (state.updateStore result).rename r := by
  cases result with
  | ok store => rfl
  | error fault => rfl

theorem enqueue_rename (state : State) (call : PendingCall) :
    (state.rename r).enqueue (call.rename r) = (state.enqueue call).rename r := by
  simp [enqueue, rename, note, Queue.enqueue, Event.rename]

theorem emit_rename (state : State) (listener : Option Listener) (value : Value) :
    (state.rename r).emit listener value = (state.emit listener value).rename r := by
  cases listener with
  | none => rfl
  | some listener =>
    have htold : (state.rename r).told = state.told := rfl
    simp only [emit, htold]
    cases listener.refuses state.told value with
    | none => rfl
    | some refusal => rfl

end State

theorem Instruction.perform_rename (instruction : Instruction) (state : State) :
    (instruction.rename r).perform (state.rename r) = (instruction.perform state).rename r := by
  cases instruction with
  | declare name type =>
    rw [rename, perform, perform, ← State.updateStore_rename, ← Store.declare_rename]
    rfl
  | assign name literal => exact State.write_rename r state name (.text literal) true
  | bind b =>
    rw [rename, perform, perform]
    simp [Outcome.rename, Outcome.done, State.rename]
  | call function =>
    have hcall := State.enqueue_rename r state ⟨function, state.bindings⟩
    exact congrArg (fun later : State => Outcome.done { later with bindings := [] }) hcall
  | copy target source =>
    have hstore : (state.rename r).store = state.store.rename r := rfl
    rw [rename, perform, perform, hstore, Store.get_rename]
    cases state.store.get source with
    | error fault => rfl
    | ok v => exact State.write_rename r state target v.value v.ready
  | delete name =>
    rw [rename, perform, perform, ← State.updateStore_rename, ← Store.delete_rename]
    rfl

/-- A fault is attributed to the same line before and after renaming. -/
theorem Failure.placed_rename (line : Int) (failure : Failure) :
    (failure.rename r).placed line = (failure.placed line).rename r := by
  cases failure with
  | fault fault =>
    simp only [rename, placed]
    split
    · rfl
    · rfl
  | refusal refusal => rfl
  | unwritableLimit limit => rfl
  | alreadyRan phase => rfl

/-- The failure of a call beyond the limit names the limit alone. -/
theorem Failure.rename_overLimit (limit : Int) :
    (overLimit limit).rename r = overLimit limit := by
  rw [overLimit]
  split
  · rfl
  · rfl

theorem Statement.execute_rename (statement : Statement) (state : State) :
    (statement.rename r).execute (state.rename r) = (statement.execute state).rename r := by
  have hperform := statement.instruction.perform_rename r (state.note (.executed statement))
  rw [← State.note_rename] at hperform
  have hnote : Event.rename r (.executed statement) = .executed (statement.rename r) := rfl
  have hinstruction : (statement.rename r).instruction = statement.instruction.rename r := rfl
  have hline : (statement.rename r).line = statement.line := rfl
  rw [execute, execute, ← hnote, hinstruction, hperform, hline]
  simp only [Outcome.rename, Option.map_map, Outcome.mk.injEq, true_and]
  refine congrArg (Option.map · _) ?_
  funext failure
  exact failure.placed_rename r statement.line

theorem executeAll_rename (body : List Statement) (state : State) :
    executeAll (body.map (Statement.rename r)) (state.rename r) =
      (executeAll body state).rename r := by
  induction body generalizing state with
  | nil => rfl
  | cons statement rest ih =>
    rw [List.map_cons, executeAll, executeAll, statement.execute_rename r state]
    cases statement.execute state with
    | mk next failure =>
      cases failure with
      | none => exact ih next
      | some failure => rfl

/-! ## Dispatches -/

/-- No function becomes an intrinsic one or ceases to be one. -/
theorem Intrinsic.ofName?_rename (name : String) :
    ofName? (r.functionName name) = ofName? name := by
  have hname : ∀ intrinsic : Intrinsic,
      r.functionName name = intrinsic.name ↔ name = intrinsic.name := by
    intro intrinsic
    constructor
    · intro h
      exact r.functionName_injective (h.trans (r.functionName_intrinsic intrinsic).symm)
    · rintro rfl
      exact r.functionName_intrinsic intrinsic
  have hadd : r.functionName name = "add" ↔ name = "add" := hname .add
  have hprint : r.functionName name = "print" ↔ name = "print" := hname .print
  simp only [ofName?, hadd, hprint]

namespace State

theorem runAdd_rename (state : State) (call : PendingCall) :
    (state.rename r).runAdd (call.rename r) = (state.runAdd call).rename r := by
  obtain ⟨function, bindings⟩ := call
  rcases bindings with _ | ⟨left, _ | ⟨right, _ | ⟨target, rest⟩⟩⟩
  · rfl
  · rfl
  · rfl
  · have hsum := state.store.sum_rename r left.name right.name
    have hread : (state.rename r).store.sum (left.rename r).name (right.rename r).name =
        r.result id (state.store.sum left.name right.name) := hsum
    simp only [runAdd, PendingCall.rename, List.map_cons, hread]
    cases state.store.sum left.name right.name with
    | error fault => rfl
    | ok n => exact write_rename r state target.name (.int n) true

theorem runPrint_rename (state : State) (listener : Option Listener) (call : PendingCall) :
    (state.rename r).runPrint listener (call.rename r) =
      (state.runPrint listener call).rename r := by
  obtain ⟨function, bindings⟩ := call
  cases bindings with
  | nil => rfl
  | cons source rest =>
    have hread : (state.rename r).store.read (source.rename r).name =
        r.result id (state.store.read source.name) := state.store.read_rename r source.name
    simp only [runPrint, PendingCall.rename, List.map_cons, hread]
    cases state.store.read source.name with
    | error fault => rfl
    | ok value => exact emit_rename r state listener value

end State

/-- A function is found under its new name where it was found under its old one. -/
theorem Program.find?_rename (program : Program) (name : String) :
    (program.rename r).find? (r.functionName name) =
      (program.find? name).map (Function.rename r) := by
  have hcomp : (fun f : Function => decide (f.name = r.functionName name)) ∘ Function.rename r =
      fun f => decide (f.name = name) := by
    funext f
    exact decide_eq_decide.2 r.functionName_injective.eq_iff
  rw [find?, rename, List.find?_map, hcomp]
  rfl

/-- Being eligible does not depend on names, and a check that faults names the missing variable by
its new name. -/
theorem eligibleBindings_rename (store : Store) (bindings : List Binding) :
    eligibleBindings (store.rename r) (bindings.map (Binding.rename r)) =
      r.result id (eligibleBindings store bindings) := by
  induction bindings with
  | nil => rfl
  | cons b rest ih =>
    have hget : (store.rename r).get (b.rename r).name =
        r.result (Variable.rename r) (store.get b.name) := store.get_rename r b.name
    rw [List.map_cons, eligibleBindings, eligibleBindings, hget]
    cases store.get b.name with
    | error fault => rfl
    | ok v =>
      simp only [Renaming.result, Variable.rename, Binding.rename, ih]
      split
      · rfl
      · split
        · rfl
        · rfl

theorem PendingCall.eligible_rename (call : PendingCall) (store : Store) :
    (call.rename r).eligible (store.rename r) = r.result id (call.eligible store) :=
  eligibleBindings_rename r store call.bindings

/-- Calls that cannot run cannot run after renaming. -/
theorem Queue.ineligible_rename {calls : Queue} {store : Store}
    (h : ∀ call ∈ calls, call.eligible store = .ok false) :
    ∀ call ∈ calls.map (PendingCall.rename r), call.eligible (store.rename r) = .ok false := by
  intro call hcall
  obtain ⟨old, hold, rfl⟩ := List.mem_map.1 hcall
  rw [old.eligible_rename r store, h old hold]
  rfl

namespace Setup

theorem runFunction_rename (setup : Setup) (name : String) (state : State) :
    (setup.rename r).runFunction (r.functionName name) (state.rename r) =
      (setup.runFunction name state).rename r := by
  have hfind : (setup.rename r).program.find? (r.functionName name) =
      (setup.program.find? name).map (Function.rename r) := setup.program.find?_rename r name
  rw [runFunction, runFunction, Program.function, Program.function, hfind]
  cases setup.program.find? name with
  | none => rfl
  | some f =>
    have hbody := executeAll_rename r f.body (state.note (.entered name))
    rw [← State.note_rename] at hbody
    exact hbody

theorem runIntrinsic_rename (setup : Setup) (intrinsic : Intrinsic) (call : PendingCall)
    (state : State) :
    (setup.rename r).runIntrinsic intrinsic (call.rename r) (state.rename r) =
      (setup.runIntrinsic intrinsic call state).rename r := by
  have hnote : (state.rename r).note (.intrinsic (call.rename r)) =
      (state.note (.intrinsic call)).rename r := state.note_rename r (.intrinsic call)
  cases intrinsic with
  | add =>
    simp only [runIntrinsic, hnote]
    exact State.runAdd_rename r (state.note (.intrinsic call)) call
  | print =>
    simp only [runIntrinsic, hnote]
    exact State.runPrint_rename r (state.note (.intrinsic call)) setup.listener call

theorem opening_rename (state : State) (call : PendingCall) :
    (state.rename r).opening (call.rename r) = (state.opening call).rename r :=
  State.note_rename r { state with dispatches := state.dispatches + 1 }
    (.dispatched (state.dispatches + 1) call)

theorem dispatch_rename (setup : Setup) (call : PendingCall) (state : State) :
    (setup.rename r).dispatch (call.rename r) (state.rename r) =
      (setup.dispatch call state).rename r := by
  have hsame : (setup.rename r).exhausted (state.rename r) = setup.exhausted state := rfl
  cases hlimit : setup.exhausted state with
  | true =>
    have hfailure := Failure.rename_overLimit r setup.limit
    rw [dispatch_of_exhausted call hlimit, dispatch_of_exhausted _ (hsame.trans hlimit)]
    exact congrArg (fun failure => Outcome.stopped (state.rename r) failure) hfailure.symm
  | false =>
    have hname : Intrinsic.ofName? (call.rename r).function = Intrinsic.ofName? call.function :=
      Intrinsic.ofName?_rename r call.function
    rw [dispatch_of_not_exhausted call hlimit, dispatch_of_not_exhausted _ (hsame.trans hlimit),
      hname, opening_rename]
    cases Intrinsic.ofName? call.function with
    | some intrinsic => exact setup.runIntrinsic_rename r intrinsic call (state.opening call)
    | none => exact setup.runFunction_rename r call.function (state.opening call)

end Setup

/-! ## Runs -/

namespace Run

theorem halt_rename (state : State) : Run.halt (state.rename r) = (Run.halt state).rename r :=
  congrArg (fun next => Run.ended (.done next)) (state.move_rename r .halted)

theorem fail_rename (state : State) (phase : Phase) (failure : Failure) :
    Run.fail (state.rename r) phase (failure.rename r) = (Run.fail state phase failure).rename r :=
  congrArg (fun next => Run.ended (.stopped next (failure.rename r))) (state.move_rename r phase)

theorem afterDispatch_rename (outcome : Outcome) :
    Run.afterDispatch (outcome.rename r) = (Run.afterDispatch outcome).rename r := by
  obtain ⟨state, failure⟩ := outcome
  cases failure with
  | none => rfl
  | some failure => exact fail_rename r state .failed failure

end Run

/-- A scan selects the same call after renaming. -/
theorem State.Selects.rename {state : State} {before after : Queue} {call : PendingCall}
    (h : state.Selects before call after) :
    (state.rename r).Selects (before.map (PendingCall.rename r)) (call.rename r)
      (after.map (PendingCall.rename r)) where
  queue := by
    have hqueue := congrArg (List.map (PendingCall.rename r)) h.queue
    rwa [List.map_append] at hqueue
  ahead := Queue.ineligible_rename r h.ahead
  eligible := (call.eligible_rename r state.store).trans (congrArg (r.result id) h.eligible)

theorem State.taking_rename (state : State) (before after : Queue) :
    (state.rename r).taking (before.map (PendingCall.rename r)) (after.map (PendingCall.rename r)) =
      (state.taking before after).rename r := by
  rw [taking, noteSkipped_rename, ← List.map_append]
  rfl

namespace Setup

/-- One step of draining: the scan finds the same, and what it finds is carried out alike. -/
theorem drain_rename (setup : Setup) (state : State) :
    (setup.rename r).drain (state.rename r) = (setup.drain state).rename r := by
  have hqueue' : (state.rename r).queue = state.queue.map (PendingCall.rename r) := rfl
  have hstep := setup.drained state
  generalize setup.drain state = next at hstep
  cases hstep with
  | halted hqueue =>
    rw [← Run.halt_rename]
    exact (Drained.halted (by rw [hqueue', hqueue, List.map_nil])).drain_eq
  | stuck hqueue hnone =>
    rw [← Run.fail_rename, ← State.noteSkipped_rename,
      (Drained.stuck (by simpa [hqueue'] using hqueue)
        (Queue.ineligible_rename r hnone)).drain_eq, hqueue',
      List.length_map]
    rfl
  | @faulty before after call fault hqueue hbefore hcall =>
    have hsplit : (state.rename r).queue = before.map (PendingCall.rename r) ++
        call.rename r :: after.map (PendingCall.rename r) := by
      rw [hqueue', hqueue, List.map_append, List.map_cons]
    have hfault := (call.eligible_rename r state.store).trans (congrArg (r.result id) hcall)
    rw [← Run.fail_rename, ← State.noteSkipped_rename]
    exact (Drained.faulty hsplit (Queue.ineligible_rename r hbefore) hfault).drain_eq
  | @dispatched before after call hqueue hbefore hcall =>
    have hselects : state.Selects before call after := ⟨hqueue, hbefore, hcall⟩
    have hrenamed := hselects.rename r
    rw [← Run.afterDispatch_rename, ← dispatch_rename, ← State.taking_rename]
    exact (Drained.dispatched hrenamed.queue hrenamed.ahead hrenamed.eligible).drain_eq

theorem start_rename (setup : Setup) (state : State) :
    (setup.rename r).start (state.rename r) = (setup.start state).rename r := by
  have hphase : (state.rename r).phase = state.phase := rfl
  rw [start, start, hphase]
  cases state.phase with
  | initializing =>
    have hentry := setup.runFunction_rename r entryName (state.move .running)
    rw [r.functionName_entry, ← State.move_rename] at hentry
    simp only [hentry]
    cases setup.runFunction entryName (state.move .running) with
    | mk later failure =>
      cases failure with
      | none => exact congrArg Run.draining (later.move_rename r .draining)
      | some failure => exact Run.fail_rename r later .failed failure
  | running | draining | halted | deadlocked | failed => rfl

/-- Runs go on alike for any number of steps. -/
theorem advance_rename (setup : Setup) (steps : Nat) (run : Run) :
    (setup.rename r).advance steps (run.rename r) = (setup.advance steps run).rename r := by
  induction steps generalizing run with
  | zero => rfl
  | succ steps ih =>
    cases run with
    | ended outcome => rfl
    | draining state =>
      rw [advance, ← ih, ← drain_rename]
      rfl

theorem run_rename (setup : Setup) (steps : Nat) (state : State) :
    (setup.rename r).run steps (state.rename r) =
      (setup.run steps state).map (Outcome.rename r) := by
  rw [run, run, start_rename, advance_rename]
  cases setup.advance steps (setup.start state) with
  | draining later => rfl
  | ended outcome => rfl

/-- The bodies that a run enters are those that the renamed run enters, from the renamed states. -/
theorem Enters.rename {setup : Setup} {journal : Array Event} {stage : Nat} {body : List Statement}
    {state : State} (h : setup.Enters journal stage body state) :
    (setup.rename r).Enters (journal.map (Event.rename r)) stage (body.map (Statement.rename r))
      (state.rename r) := by
  cases h with
  | @entry f hfind =>
    have hfind' : (setup.rename r).program.find? entryName = some (f.rename r) := by
      have hrenamed := setup.program.find?_rename r entryName
      rw [r.functionName_entry, hfind] at hrenamed
      exact hrenamed
    have hstate : (((State.initial journal).move .running).note (.entered entryName)).rename r =
        ((State.initial (journal.map (Event.rename r))).move .running).note
          (.entered entryName) := by
      rw [← State.note_rename, ← State.move_rename, Event.rename, r.functionName_entry]
      rfl
    rw [hstate]
    exact .entry hfind'
  | @call steps earlier before after call f hreach hselects hfree hname hfind =>
    have hreach' : (setup.rename r).advance steps
        ((setup.rename r).start (.initial (journal.map (Event.rename r)))) =
          .draining (earlier.rename r) := by
      have hrenamed := setup.advance_rename r steps (setup.start (.initial journal))
      rw [← start_rename, hreach] at hrenamed
      exact hrenamed
    have hfind' : (setup.rename r).program.find? (call.rename r).function = some (f.rename r) := by
      have hrenamed := setup.program.find?_rename r call.function
      rw [hfind] at hrenamed
      exact hrenamed
    rw [← State.note_rename, ← opening_rename, ← State.taking_rename]
    refine .call hreach' (hselects.rename r) ?_ ?_ hfind'
    · rw [State.taking_rename]
      exact hfree
    · exact (Intrinsic.ofName?_rename r call.function).trans hname

end Setup

end Operations

namespace Setup

/-- Renaming makes no difference to a run but for the names. After any number of steps the renamed
run is the run with the new names: in the same phase, with the same values printed and told and the
same number of dispatches, with the same variables in the same order and with the same values and
flags, with the calls and bindings renamed, and if it has ended with the same failure, on the same
line, about the renamed variable or function. So it is between any two statements of each body that
it enters. -/
theorem renamed_run_goes_alike (r : Renaming) (setup : Setup) (journal : Array Event) :
    (∀ steps,
      (setup.rename r).advance steps
          ((setup.rename r).start (.initial (journal.map (Event.rename r)))) =
        (setup.advance steps (setup.start (.initial journal))).rename r ∧
      (setup.rename r).run steps (.initial (journal.map (Event.rename r))) =
        (setup.run steps (.initial journal)).map (Outcome.rename r)) ∧
    (∀ stage before after state, setup.Enters journal stage (before ++ after) state →
      (setup.rename r).Enters (journal.map (Event.rename r)) stage
        (before.map (Statement.rename r) ++ after.map (Statement.rename r)) (state.rename r) ∧
      executeAll (before.map (Statement.rename r)) (state.rename r) =
        (executeAll before state).rename r) := by
  -- a new machine has no names in it, but for those in its journal
  have hnew : State.initial (journal.map (Event.rename r)) = (State.initial journal).rename r := rfl
  constructor
  · intro steps
    rw [hnew, start_rename, advance_rename, run_rename]
    exact ⟨rfl, rfl⟩
  · intro stage before after state henters
    have hrenamed := henters.rename r
    rw [List.map_append] at hrenamed
    exact ⟨hrenamed, executeAll_rename r before state⟩

/-- Swaps two variables and two functions, and makes all types one. -/
def swapped : Renaming where
  variableName := Equiv.swap "a" "b"
  functionName := Equiv.swap "fill" "load"
  typeWord := fun _ => "any"
  text := fun statement => statement.source
  variableName_injective := Equiv.injective _
  functionName_injective := Equiv.injective _
  functionName_entry := by decide
  functionName_intrinsic := by
    intro intrinsic
    cases intrinsic with
    | add => decide
    | print => decide

/-- The entry function declares `a` and calls `fill`, which assigns `b` on line 7. -/
def missedTarget : Setup :=
  let entry : List Statement := [⟨.declare "a" "int", "", 2⟩, ⟨.call "fill", "", 3⟩]
  ⟨⟨[⟨entryName, [], entry, 1⟩, ⟨"fill", [], [⟨.assign "b" "7", "", 7⟩], 6⟩]⟩, 0, none⟩

/-- Swapped, it declares `b`, and fails on the same line for want of `a`. -/
theorem renamed_run_goes_alike_swapped :
    ∃ outcome, missedTarget.run 1 (.initial #[]) = some outcome ∧
      outcome.failure = some (.fault ⟨.unknownVariable "b", some 7⟩) ∧
      (missedTarget.rename swapped).run 1 (.initial #[]) = some (outcome.rename swapped) ∧
      (outcome.rename swapped).failure = some (.fault ⟨.unknownVariable "a", some 7⟩) ∧
      (outcome.rename swapped).state.store = ⟨[.fresh "b" "any"]⟩ ∧
      ∃ state, missedTarget.Enters #[] 0 [⟨.declare "a" "int", "", 2⟩, ⟨.call "fill", "", 3⟩]
          state ∧
        (missedTarget.rename swapped).Enters #[] 0
          [⟨.declare "b" "any", "", 2⟩, ⟨.call "load", "", 3⟩] (state.rename swapped) ∧
        executeAll [⟨.declare "b" "any", "", 2⟩] (state.rename swapped) =
          (executeAll [⟨.declare "a" "int", "", 2⟩] state).rename swapped := by
  obtain ⟨outcome, hrun, hfailure, hstore⟩ : ∃ outcome,
      missedTarget.run 1 (.initial #[]) = some outcome ∧
        outcome.failure = some (.fault ⟨.unknownVariable "b", some 7⟩) ∧
        outcome.state.store = ⟨[.fresh "a" "int"]⟩ := ⟨_, rfl, rfl, rfl⟩
  obtain ⟨hruns, hbodies⟩ := renamed_run_goes_alike swapped missedTarget #[]
  rw [Array.map_empty] at hruns hbodies
  have hrenamed := (hruns 1).2
  rw [hrun] at hrenamed
  have hentry : missedTarget.program.find? entryName =
      some ⟨entryName, [], [⟨.declare "a" "int", "", 2⟩, ⟨.call "fill", "", 3⟩], 1⟩ := rfl
  obtain ⟨state, henters⟩ : ∃ state, missedTarget.Enters #[] 0
      ([⟨.declare "a" "int", "", 2⟩] ++ [⟨.call "fill", "", 3⟩]) state := ⟨_, .entry hentry⟩
  obtain ⟨henters', hbody⟩ := hbodies 0 _ _ state henters
  refine ⟨outcome, hrun, hfailure, hrenamed, ?_, ?_, state, henters, henters', hbody⟩
  · rw [Outcome.rename, hfailure]
    rfl
  · rw [Outcome.rename, State.rename, hstore]
    rfl

end Setup

end Dataflow
