import Dataflow.Machine.Dispatch
import Dataflow.Proofs.Scan

/-!
# What execution does

One specification for each function that carries something out. Statements change the store by its
operations, leave phase, output and the number of dispatches alone, and fail with a fault of
`Cause.OfStatement` (`executeAll_executed`). A dispatch that is not refused counts once, changes
the store by its operations, and fails with a failure of `Failure.OfDispatch`
(`Setup.dispatch_carried`); a refused one leaves the state as it is
(`Setup.dispatch_of_exhausted`).
-/

set_option autoImplicit false

namespace Dataflow

/-! ## Failures -/

/-- The causes for which a statement can fail. -/
inductive Cause.OfStatement : Cause → Prop where
  | alreadyDeclared (name : String) : OfStatement (.alreadyDeclared name)
  | unknownVariable (name : String) : OfStatement (.unknownVariable name)

/-- The causes for which a dispatch can fail. -/
inductive Cause.OfDispatch : Cause → Prop where
  | statement {cause : Cause} (h : cause.OfStatement) : OfDispatch cause
  | unknownFunction (name : String) : OfDispatch (.unknownFunction name)
  | invalidOperand (name : String) (value : Value) : OfDispatch (.invalidOperand name value)
  | intrinsicArity (name : String) (expected got : Nat) :
      OfDispatch (.intrinsicArity name expected got)
  | dispatchLimit (limit : Int) : OfDispatch (.dispatchLimit limit)

/-- The failures with which a dispatch can end. -/
inductive Failure.OfDispatch : Failure → Prop where
  | fault {f : Fault} (h : f.cause.OfDispatch) : OfDispatch (.fault f)
  | refusal (r : Refusal) : OfDispatch (.refusal r)
  | unwritableLimit (limit : Int) : OfDispatch (.unwritableLimit limit)

/-- The failures that report a deadlock. -/
def Failure.ReportsDeadlock (failure : Failure) : Prop :=
  ∃ queued line, failure = .fault ⟨.deadlocked queued, line⟩

/-- No dispatch reports a deadlock. -/
theorem Failure.OfDispatch.not_reportsDeadlock {failure : Failure} (h : failure.OfDispatch) :
    ¬ failure.ReportsDeadlock := by
  rintro ⟨queued, line, rfl⟩
  cases h with
  | fault hcause =>
    cases hcause with
    | statement hstatement => cases hstatement

/-- A limit that can be written is named in a fault. -/
theorem Failure.overLimit_of_within {limit : Int} (h : Text.withinDigitLimit limit = true) :
    overLimit limit = .fault (.unplaced (.dispatchLimit limit)) :=
  if_pos h

theorem Failure.overLimit_of_not_within {limit : Int} (h : Text.withinDigitLimit limit = false) :
    overLimit limit = .unwritableLimit limit :=
  if_neg (Bool.eq_false_iff.1 h)

theorem Failure.ofDispatch_overLimit (limit : Int) : (overLimit limit).OfDispatch := by
  rw [overLimit]
  split
  · exact .fault (.dispatchLimit limit)
  · exact .unwritableLimit limit

/-! ## Statements -/

/-- What carrying out statements in a state does. -/
structure Outcome.Executed (outcome : Outcome) (state : State) : Prop where
  store : Store.Changes state.store outcome.state.store
  phase : outcome.state.phase = state.phase
  output : outcome.state.output = state.output
  told : outcome.state.told = state.told
  dispatches : outcome.state.dispatches = state.dispatches
  failure : ∀ failure, outcome.failure = some failure →
    ∃ fault, failure = .fault fault ∧ fault.cause.OfStatement

namespace Outcome.Executed

/-- An operation that keeps the store and all that statements keep. -/
theorem of_done {state state' : State} (hstore : state'.store = state.store)
    (hphase : state'.phase = state.phase) (houtput : state'.output = state.output)
    (htold : state'.told = state.told) (hdispatches : state'.dispatches = state.dispatches) :
    (Outcome.done state').Executed state where
  store := by
    rw [Outcome.done, hstore]
  phase := hphase
  output := houtput
  told := htold
  dispatches := hdispatches
  failure := by
    intro failure h
    simp [Outcome.done] at h

/-- An operation that fails before it changes anything. -/
theorem of_stopped (state : State) {fault : Fault} (hfault : fault.cause.OfStatement) :
    (Outcome.stopped state (.fault fault)).Executed state where
  store := .refl
  phase := rfl
  output := rfl
  told := rfl
  dispatches := rfl
  failure := by
    intro failure h
    exact ⟨fault, (Option.some.inj h).symm, hfault⟩

/-- What is carried out after a complete operation. -/
theorem trans {state middle : State} {outcome : Outcome}
    (hfirst : (Outcome.done middle).Executed state) (hrest : outcome.Executed middle) :
    outcome.Executed state where
  store := hfirst.store.trans hrest.store
  phase := hrest.phase.trans hfirst.phase
  output := hrest.output.trans hfirst.output
  told := hrest.told.trans hfirst.told
  dispatches := hrest.dispatches.trans hfirst.dispatches
  failure := hrest.failure

end Outcome.Executed

/-- A store operation whose only faults are those of statements. -/
theorem State.updateStore_executed (state : State) {result : Except Fault Store}
    (hok : ∀ store, result = .ok store → Store.Change state.store store)
    (herror : ∀ fault, result = .error fault → fault.cause.OfStatement) :
    (state.updateStore result).Executed state := by
  cases result with
  | error fault => exact .of_stopped state (herror fault rfl)
  | ok store =>
    refine ⟨.single (hok store rfl), rfl, rfl, rfl, rfl, ?_⟩
    intro failure h
    simp [State.updateStore, Outcome.done] at h

theorem State.write_executed (state : State) (name : String) (value : Value) (ready : Bool) :
    (state.write name value ready).Executed state := by
  rw [State.write]
  cases hwrite : state.store.write name value ready with
  | error fault =>
    obtain ⟨-, rfl⟩ := Store.write_eq_error_iff.1 hwrite
    exact .of_stopped state (.unknownVariable name)
  | ok store =>
    refine ⟨.single (.write hwrite), rfl, rfl, rfl, rfl, ?_⟩
    intro failure h
    simp [Outcome.done] at h

theorem Instruction.perform_executed (instruction : Instruction) (state : State) :
    (instruction.perform state).Executed state := by
  cases instruction with
  | declare name type =>
    refine state.updateStore_executed (fun _ h => .declare h) ?_
    intro fault h
    rw [Store.declare] at h
    split at h
    · rw [← Except.error.inj h]
      exact .alreadyDeclared name
    · simp at h
  | assign name literal => exact state.write_executed name (.text literal) true
  | bind b => exact .of_done rfl rfl rfl rfl rfl
  | call function => exact .of_done rfl rfl rfl rfl rfl
  | copy target source =>
    rw [Instruction.perform]
    cases hget : state.store.get source with
    | error fault =>
      obtain ⟨-, rfl⟩ := Store.get_eq_error_iff.1 hget
      exact .of_stopped state (.unknownVariable source)
    | ok v => exact state.write_executed target v.value v.ready
  | delete name =>
    refine state.updateStore_executed (fun _ h => .delete h) ?_
    intro fault h
    rw [Store.delete] at h
    split at h
    · simp at h
    · rw [← Except.error.inj h]
      exact .unknownVariable name

/-- Attributing a fault to a line keeps its cause. -/
theorem Failure.placed_fault (line : Int) (fault : Fault) :
    ∃ fault', Failure.placed line (.fault fault) = .fault fault' ∧ fault'.cause = fault.cause := by
  -- a fault that names a line already keeps it
  rw [Failure.placed]
  split
  · exact ⟨fault, rfl, rfl⟩
  · exact ⟨fault.atLine line, rfl, rfl⟩

theorem Statement.execute_executed (statement : Statement) (state : State) :
    (statement.execute state).Executed state := by
  have hnote : (Outcome.done (state.note (.executed statement))).Executed state :=
    .of_done rfl rfl rfl rfl rfl
  have h := hnote.trans (statement.instruction.perform_executed (state.note (.executed statement)))
  refine ⟨h.store, h.phase, h.output, h.told, h.dispatches, ?_⟩
  intro failure hfailure
  obtain ⟨original, horiginal, rfl⟩ := Option.map_eq_some_iff.1 hfailure
  obtain ⟨fault, rfl, hfault⟩ := h.failure original horiginal
  obtain ⟨fault', hplaced, hcause⟩ := Failure.placed_fault statement.line fault
  exact ⟨fault', hplaced, hcause ▸ hfault⟩

theorem executeAll_executed (body : List Statement) (state : State) :
    (executeAll body state).Executed state := by
  induction body generalizing state with
  | nil => exact .of_done rfl rfl rfl rfl rfl
  | cons statement rest ih =>
    have hfirst := statement.execute_executed state
    -- the first statement that fails is the last one carried out
    rw [executeAll]
    split
    · next middle hmiddle =>
      rw [hmiddle] at hfirst
      exact Outcome.Executed.trans hfirst (ih middle)
    · exact hfirst

/-! ## Dispatches -/

/-- The state in which a call that is not refused is carried out. -/
def State.opening (state : State) (call : PendingCall) : State :=
  { state with dispatches := state.dispatches + 1 }.note (.dispatched (state.dispatches + 1) call)

/-- What carrying out one dispatch in a state does. -/
structure Outcome.Carried (outcome : Outcome) (state : State) : Prop where
  store : Store.Changes state.store outcome.state.store
  phase : outcome.state.phase = state.phase
  dispatches : outcome.state.dispatches = state.dispatches
  failure : ∀ failure, outcome.failure = some failure → failure.OfDispatch

/-- Statements are one way to carry out a dispatch. -/
theorem Outcome.Executed.carried {outcome : Outcome} {state : State} (h : outcome.Executed state) :
    outcome.Carried state where
  store := h.store
  phase := h.phase
  dispatches := h.dispatches
  failure := by
    intro failure hfailure
    obtain ⟨fault, rfl, hfault⟩ := h.failure failure hfailure
    exact .fault (.statement hfault)

theorem Outcome.Carried.of_faulty (state : State) {fault : Fault}
    (hfault : fault.cause.OfDispatch) :
    (Outcome.stopped state (.fault fault)).Carried state where
  store := .refl
  phase := rfl
  dispatches := rfl
  failure := by
    intro failure h
    rw [← Option.some.inj h]
    exact .fault hfault

/-- Recording an event first makes no difference. -/
theorem Outcome.Carried.of_note {outcome : Outcome} {state : State} {event : Event}
    (h : outcome.Carried (state.note event)) : outcome.Carried state :=
  ⟨h.store, h.phase, h.dispatches, h.failure⟩

theorem Store.read_eq_ok_iff {store : Store} {name : String} {value : Value} :
    store.read name = .ok value ↔ ∃ v, store.find? name = some v ∧ v.value = value := by
  rw [read]
  cases hget : store.get name with
  | error fault =>
    have hnone := (get_eq_error_iff.1 hget).1
    simp [Except.map, hnone]
  | ok v =>
    have hsome := get_eq_ok_iff.1 hget
    simp [Except.map, hsome]

theorem Store.read_eq_error_iff {store : Store} {name : String} {fault : Fault} :
    store.read name = .error fault ↔
      store.find? name = none ∧ fault = .unplaced (.unknownVariable name) := by
  rw [← get_eq_error_iff, read]
  cases store.get name with
  | error other => simp [Except.map]
  | ok v => simp [Except.map]

namespace Store

variable {store : Store} {fault : Fault}

/-- A summand is missing when its variable is, or when its value is no integer. -/
theorem operand_eq_error {name : String} (h : store.operand name = .error fault) :
    (store.find? name = none ∧ fault = .unplaced (.unknownVariable name)) ∨
      ∃ v, store.find? name = some v ∧ v.value.toInt? = none ∧
        fault = .unplaced (.invalidOperand name v.value) := by
  rw [operand] at h
  cases hread : store.read name with
  | error other =>
    simp only [hread, Except.error.injEq] at h
    obtain ⟨hfind, hother⟩ := read_eq_error_iff.1 hread
    exact Or.inl ⟨hfind, h ▸ hother⟩
  | ok value =>
    simp only [hread] at h
    obtain ⟨v, hfind, rfl⟩ := read_eq_ok_iff.1 hread
    split at h
    · cases h
    · next hvalue => exact Or.inr ⟨v, hfind, hvalue, (Except.error.inj h).symm⟩

/-- A sum fails at one of its two summands. -/
theorem sum_eq_error {left right : String} (h : store.sum left right = .error fault) :
    store.operand left = .error fault ∨ store.operand right = .error fault := by
  rw [sum] at h
  split at h
  · next other hleft => exact Or.inl (Except.error.inj h ▸ hleft)
  · split at h
    · next other hright => exact Or.inr (Except.error.inj h ▸ hright)
    · cases h

end Store

theorem Store.operand_fault {store : Store} {name : String} {fault : Fault}
    (h : store.operand name = .error fault) : fault.cause.OfDispatch := by
  rcases operand_eq_error h with ⟨-, rfl⟩ | ⟨v, -, -, rfl⟩
  · exact .statement (.unknownVariable name)
  · exact .invalidOperand name v.value

theorem Store.sum_fault {store : Store} {left right : String} {fault : Fault}
    (h : store.sum left right = .error fault) : fault.cause.OfDispatch := by
  rcases sum_eq_error h with hleft | hright
  · exact operand_fault hleft
  · exact operand_fault hright

theorem State.runAdd_carried (state : State) (call : PendingCall) :
    (state.runAdd call).Carried state := by
  rw [State.runAdd]
  split
  · next left right target rest hbindings =>
    split
    · next n hsum => exact (state.write_executed target.name (.int n) true).carried
    · next fault hsum => exact .of_faulty state (Store.sum_fault hsum)
  · exact .of_faulty state (.intrinsicArity call.function 3 _)

theorem State.emit_carried (state : State) (listener : Option Listener) (value : Value) :
    (state.emit listener value).Carried state := by
  cases listener with
  | none =>
    refine ⟨.refl, rfl, rfl, ?_⟩
    intro failure h
    simp [State.emit, Outcome.done] at h
  | some listener =>
    simp only [State.emit]
    cases listener.refuses state.told value with
    | none =>
      refine ⟨.refl, rfl, rfl, ?_⟩
      intro failure h
      simp [Outcome.done] at h
    | some refusal =>
      -- the value counts as printed and told although the listener refuses it
      refine ⟨.refl, rfl, rfl, ?_⟩
      intro failure h
      rw [← Option.some.inj h]
      exact .refusal refusal

theorem State.runPrint_carried (state : State) (listener : Option Listener) (call : PendingCall) :
    (state.runPrint listener call).Carried state := by
  rw [State.runPrint]
  split
  · next source rest hbindings =>
    cases hread : state.store.read source.name with
    | ok value => exact state.emit_carried listener value
    | error fault =>
      obtain ⟨-, rfl⟩ := Store.read_eq_error_iff.1 hread
      exact .of_faulty state (.statement (.unknownVariable source.name))
  · exact .of_faulty state (.intrinsicArity call.function 1 0)

namespace Setup

theorem runFunction_carried (setup : Setup) (name : String) (state : State) :
    (setup.runFunction name state).Carried state := by
  rw [runFunction, Program.function]
  cases setup.program.find? name with
  | none => exact .of_faulty state (.unknownFunction name)
  | some f => exact (executeAll_executed f.body (state.note (.entered name))).carried.of_note

theorem runIntrinsic_carried (setup : Setup) (intrinsic : Intrinsic) (call : PendingCall)
    (state : State) : (setup.runIntrinsic intrinsic call state).Carried state := by
  -- an intrinsic call is recorded once more before it is carried out
  cases intrinsic with
  | add => exact (State.runAdd_carried _ call).of_note
  | print => exact (State.runPrint_carried _ setup.listener call).of_note

/-- A refused call leaves the state as it is. -/
theorem dispatch_of_exhausted {setup : Setup} {state : State} (call : PendingCall)
    (h : setup.exhausted state = true) :
    setup.dispatch call state = .stopped state (.overLimit setup.limit) := by
  rw [dispatch, if_pos h]

/-- A call that is not refused goes to an intrinsic function or to a function of the program. -/
theorem dispatch_of_not_exhausted {setup : Setup} {state : State} (call : PendingCall)
    (h : setup.exhausted state = false) :
    setup.dispatch call state =
      match Intrinsic.ofName? call.function with
      | some intrinsic => setup.runIntrinsic intrinsic call (state.opening call)
      | none => setup.runFunction call.function (state.opening call) := by
  rw [dispatch, h, if_neg Bool.false_ne_true]
  rfl

/-- A call that is not refused counts as begun, whatever comes of it. -/
theorem dispatch_carried {setup : Setup} {state : State} (call : PendingCall)
    (h : setup.exhausted state = false) :
    (setup.dispatch call state).Carried (state.opening call) := by
  rw [dispatch_of_not_exhausted call h]
  cases Intrinsic.ofName? call.function with
  | none => exact setup.runFunction_carried call.function (state.opening call)
  | some intrinsic => exact setup.runIntrinsic_carried intrinsic call (state.opening call)

end Setup

end Dataflow
