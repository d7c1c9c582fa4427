import Dataflow.Proofs.Accounting

/-!
# The bodies that a run carries out

A run carries out the body of its entry function, and then with each step at most the body of one
dispatched function. `Setup.Enters` tells in which stage of a run a body is carried out, and from
which state. A body fails exactly when it stops at one of its statements (`executeAll_failure_iff`),
and the run then ends with the failure of that statement (`Setup.Enters.ended`).

`Setup.Fails` lists everything that makes a run fail, and every failure of a run is in the list
(`Setup.fails_of_run`). A call of an intrinsic function that the scan selected misses no variable
(`Setup.runIntrinsic_failure`): the scan looked up all of them, whatever their directions.
-/

set_option autoImplicit false

namespace Dataflow

/-! ## Bodies -/

/-- An operation without a failure is complete. -/
theorem Outcome.eq_done {outcome : Outcome} (h : outcome.failure = none) :
    outcome = .done outcome.state := by
  rw [Outcome.done, ← h]

/-- Carrying out a body stops at a statement: what is in front of it is complete, and it fails. -/
inductive StopsAt (body : List Statement) (state : State) (statement : Statement)
    (failure : Failure) : Prop where
  | intro {before after : List Statement} {middle : State}
      (hbody : body = before ++ statement :: after)
      (hbefore : executeAll before state = .done middle)
      (hfails : (statement.execute middle).failure = some failure)

section Bodies

variable {body rest : List Statement} {statement : Statement} {state middle : State}
  {failure : Failure}

theorem executeAll_cons_done (h : statement.execute state = .done middle) :
    executeAll (statement :: rest) state = executeAll rest middle := by
  rw [executeAll, h]
  rfl

theorem executeAll_cons_stopped (h : (statement.execute state).failure = some failure) :
    executeAll (statement :: rest) state = statement.execute state := by
  rw [executeAll]
  split
  · next done hdone =>
    rw [hdone] at h
    cases h
  · rfl

/-- What comes behind complete statements starts where they leave off. -/
theorem executeAll_append {before : List Statement} (h : executeAll before state = .done middle) :
    executeAll (before ++ rest) state = executeAll rest middle := by
  induction before generalizing state with
  | nil =>
    obtain rfl : state = middle := congrArg Outcome.state h
    rfl
  | cons first before ih =>
    cases hfirst : (first.execute state).failure with
    | some failure =>
      rw [executeAll_cons_stopped hfirst] at h
      rw [h] at hfirst
      cases hfirst
    | none =>
      have hdone := Outcome.eq_done hfirst
      rw [executeAll_cons_done hdone] at h
      rw [List.cons_append, executeAll_cons_done hdone, ih h]

/-- A body that stops at a statement fails as the statement does. -/
theorem StopsAt.failure_eq (h : StopsAt body state statement failure) :
    (executeAll body state).failure = some failure := by
  obtain ⟨rfl, hbefore, hfails⟩ := h
  rw [executeAll_append hbefore, executeAll_cons_stopped hfails, hfails]

theorem StopsAt.mem (h : StopsAt body state statement failure) : statement ∈ body := by
  obtain ⟨rfl, -, -⟩ := h
  exact List.mem_append_right _ List.mem_cons_self

/-- A body fails exactly when it stops at one of its statements. -/
theorem executeAll_failure_iff :
    (executeAll body state).failure = some failure ↔
      ∃ statement, StopsAt body state statement failure := by
  constructor
  · intro h
    induction body generalizing state with
    | nil => cases h
    | cons first rest ih =>
      cases hfirst : (first.execute state).failure with
      | some other =>
        rw [executeAll_cons_stopped hfirst] at h
        exact ⟨first, @StopsAt.intro _ _ _ _ [] rest state rfl rfl h⟩
      | none =>
        have hdone := Outcome.eq_done hfirst
        rw [executeAll_cons_done hdone] at h
        obtain ⟨statement, rfl, hbefore, hfails⟩ := ih h
        exact ⟨statement, .intro rfl ((executeAll_cons_done hdone).trans hbefore) hfails⟩
  · rintro ⟨statement, h⟩
    exact h.failure_eq

/-- The last statement of a complete body is carried out where those in front of it leave off. -/
theorem executeAll_concat_done {next : State}
    (h : executeAll (body ++ [statement]) state = .done next) :
    ∃ middle, executeAll body state = .done middle ∧ statement.execute middle = .done next := by
  cases hfirst : (executeAll body state).failure with
  | some failure =>
    obtain ⟨stop, hbody, hbefore, hfails⟩ := executeAll_failure_iff.1 hfirst
    have hstops : StopsAt (body ++ [statement]) state stop failure :=
      .intro (by rw [hbody, List.append_assoc, List.cons_append]) hbefore hfails
    have hfailure := hstops.failure_eq
    rw [h] at hfailure
    cases hfailure
  | none =>
    have hmiddle := Outcome.eq_done hfirst
    rw [executeAll_append hmiddle] at h
    refine ⟨_, hmiddle, ?_⟩
    cases hlast : (statement.execute (executeAll body state).state).failure with
    | some failure =>
      rw [executeAll_cons_stopped hlast] at h
      exact h
    | none =>
      rw [executeAll_cons_done (Outcome.eq_done hlast)] at h
      rw [Outcome.eq_done hlast]
      exact h

end Bodies

namespace Setup

variable {setup : Setup}

/-- A function of the program is carried out by its body. -/
theorem runFunction_of_find? {name : String} {f : Function}
    (hfind : setup.program.find? name = some f) (state : State) :
    setup.runFunction name state = executeAll f.body (state.note (.entered name)) := by
  rw [runFunction, Program.function, hfind]

/-- A function fails because it is not defined, or stops at one of its statements. -/
theorem runFunction_stopped {name : String} {state : State} {failure : Failure}
    (h : (setup.runFunction name state).failure = some failure) :
    (setup.program.find? name = none ∧ failure = .fault (.unplaced (.unknownFunction name))) ∨
      ∃ f statement, setup.program.find? name = some f ∧
        StopsAt f.body (state.note (.entered name)) statement failure := by
  cases hfind : setup.program.find? name with
  | none =>
    rw [runFunction, Program.function, hfind] at h
    exact Or.inl ⟨rfl, (Option.some.inj h).symm⟩
  | some f =>
    rw [runFunction_of_find? hfind] at h
    obtain ⟨statement, hstops⟩ := executeAll_failure_iff.1 h
    exact Or.inr ⟨f, statement, rfl, hstops⟩

/-! ## Stages of a run -/

/-- In a stage of a run a body is carried out from a state. Stage 0 is the entry function, and each
further stage is a step of draining, after which the run is the one that took that many steps. -/
inductive Enters (setup : Setup) (journal : Array Event) : Nat → List Statement → State → Prop where
  | entry {f : Function} (hfind : setup.program.find? entryName = some f) :
      Enters setup journal 0 f.body
        (((State.initial journal).move .running).note (.entered entryName))
  | call {steps : Nat} {state : State} {before after : Queue} {call : PendingCall} {f : Function}
      (hreach : setup.advance steps (setup.start (.initial journal)) = .draining state)
      (hselects : state.Selects before call after)
      (hfree : setup.exhausted (state.taking before after) = false)
      (hname : Intrinsic.ofName? call.function = none)
      (hfind : setup.program.find? call.function = some f) :
      Enters setup journal (steps + 1) f.body
        (((state.taking before after).opening call).note (.entered call.function))

section Stages

variable {journal : Array Event} {stage : Nat} {body : List Statement} {state : State}

/-- The bodies that a run carries out are those of functions of the program. -/
theorem Enters.exists_function (h : setup.Enters journal stage body state) :
    ∃ f ∈ setup.program.functions, f.body = body := by
  cases h with
  | @entry f hfind => exact ⟨f, List.mem_of_find?_eq_some hfind, rfl⟩
  | @call steps state before after call f hreach hselects hfree hname hfind =>
    exact ⟨f, List.mem_of_find?_eq_some hfind, rfl⟩

/-- What comes of a run in a stage is what comes of the body. -/
theorem Enters.advance_eq (h : setup.Enters journal stage body state) :
    setup.advance stage (setup.start (.initial journal)) = .afterEntry (executeAll body state) ∨
      setup.advance stage (setup.start (.initial journal)) =
        .afterDispatch (executeAll body state) := by
  cases h with
  | entry hfind =>
    left
    rw [advance, setup.start_eq_afterEntry journal, runFunction_of_find? hfind]
  | @call steps state before after call f hreach hselects hfree hname hfind =>
    right
    have hdrain : setup.drain state =
        .afterDispatch (setup.dispatch call (state.taking before after)) :=
      Drained.drain_eq (.dispatched hselects.queue hselects.ahead hselects.eligible)
    rw [advance_succ_last, hreach, step, hdrain, dispatch_of_not_exhausted call hfree]
    simp only [hname, runFunction_of_find? hfind]

/-- A run ends with the failure of the statement at which a body stops. -/
theorem Enters.ended (h : setup.Enters journal stage body state) {statement : Statement}
    {failure : Failure} (hstops : StopsAt body state statement failure) :
    ∃ outcome, setup.advance stage (setup.start (.initial journal)) = .ended outcome ∧
      outcome.failure = some failure := by
  have hbody : executeAll body state = ⟨(executeAll body state).state, some failure⟩ := by
    rw [← hstops.failure_eq]
  rcases h.advance_eq with hafter | hafter
  · rw [hafter, hbody]
    exact ⟨_, rfl, rfl⟩
  · rw [hafter, hbody]
    exact ⟨_, rfl, rfl⟩

end Stages

end Setup

/-! ## Scans -/

namespace State

variable {state : State} {before after : Queue} {call : PendingCall}

/-- A call that is selected is taken out of the queue. -/
theorem Selects.pop_eq (h : state.Selects before call after) :
    state.pop = (state.taking before after, .ok (.runnable before.length call)) := by
  have hsurvey : state.queue.survey state.store =
      ⟨before, .ok (.runnable before.length call)⟩ := by
    rw [h.queue, Queue.survey_append h.ahead (by simp [h.eligible]), h.eligible]
    rfl
  rw [pop, select, hsurvey, taking]
  simp only [queue_noteSkipped, Queue.remove, h.eraseIdx_eq]

/-- A scan that takes a call out of the queue selected it. -/
theorem exists_selects_of_pop {popped : State} {index : Nat}
    (h : state.pop = (popped, .ok (.runnable index call))) :
    ∃ before after, state.Selects before call after ∧ popped = state.taking before after := by
  have hfound : state.pop.2 = (state.queue.survey state.store).found := by
    rw [pop, select]
    cases (state.queue.survey state.store).found with
    | error fault => rfl
    | ok scan => rfl
  rw [h] at hfound
  rcases Queue.eligible_split state.store state.queue with
    hnone | ⟨before, first, after, hqueue, hbefore, hfirst⟩
  · by_cases hqueue : state.queue = []
    · rw [hqueue] at hfound
      cases hfound
    · rw [Queue.survey_of_ineligible hqueue hnone] at hfound
      cases hfound
  · cases heligible : first.eligible state.store with
    | error fault =>
      rw [hqueue, Queue.survey_append hbefore hfirst, heligible] at hfound
      cases hfound
    | ok flag =>
      cases flag with
      | false => exact absurd heligible hfirst
      | true =>
        have hselects : state.Selects before first after := ⟨hqueue, hbefore, heligible⟩
        obtain ⟨rfl, hcall⟩ := Prod.mk.inj (h.symm.trans hselects.pop_eq)
        obtain ⟨-, rfl⟩ := Scan.runnable.inj (Except.ok.inj hcall)
        exact ⟨before, after, hselects, rfl⟩

end State

/-! ## Intrinsic functions -/

/-- The failures of an intrinsic function that the scan selected. -/
inductive Failure.OfIntrinsic (setup : Setup) (call : PendingCall) : Failure → Prop where
  | arity (expected got : Nat) :
      OfIntrinsic setup call (.fault (.unplaced (.intrinsicArity call.function expected got)))
  | operand (name : String) (value : Value) :
      OfIntrinsic setup call (.fault (.unplaced (.invalidOperand name value)))
  | refusal {listener : Listener} {told : Array Value} {value : Value} {r : Refusal}
      (hlistener : setup.listener = some listener)
      (hrefuses : listener.refuses told value = some r) : OfIntrinsic setup call (.refusal r)

/-- Only a listener refuses a value. -/
theorem State.runPrint_refusal {state : State} {listener : Option Listener} {call : PendingCall}
    {r : Refusal} (h : (state.runPrint listener call).failure = some (.refusal r)) :
    ∃ l told value, listener = some l ∧ l.refuses told value = some r := by
  rw [State.runPrint] at h
  split at h
  · next source rest hbindings =>
    cases hread : state.store.read source.name with
    | error fault =>
      simp only [hread] at h
      cases h
    | ok value =>
      simp only [hread] at h
      cases listener with
      | none => cases h
      | some l =>
        simp only [State.emit] at h
        cases hrefuses : l.refuses state.told value with
        | none =>
          simp only [hrefuses] at h
          cases h
        | some refusal =>
          simp only [hrefuses, Outcome.stopped, Option.some.injEq, Failure.refusal.injEq] at h
          exact ⟨l, state.told, value, rfl, h ▸ hrefuses⟩
  · cases h

namespace Setup

variable {setup : Setup} {journal : Array Event}

/-- A call of an intrinsic function that the scan selected fails for its number of bindings, for an
operand, or because the listener refuses the value: all its variables are declared. -/
theorem runIntrinsic_failure {state : State} {before after : Queue} {call : PendingCall}
    (hselects : state.Selects before call after) {intrinsic : Intrinsic}
    (hname : Intrinsic.ofName? call.function = some intrinsic) {failure : Failure}
    (h : (setup.runIntrinsic intrinsic call ((state.taking before after).opening call)).failure =
      some failure) : failure.OfIntrinsic setup call := by
  have hstore : (((state.taking before after).opening call).note (.intrinsic call)).store =
      state.store := by
    rw [State.taking_eq]
    rfl
  -- the scan found a variable for every binding, whatever its direction
  have hdeclared : ∀ b ∈ call.bindings, state.store.find? b.name ≠ none := by
    intro b hb hnone
    obtain ⟨v, hv, -⟩ := eligibleBindings_eq_ok_true_iff.1 hselects.eligible b hb
    rw [hnone] at hv
    cases hv
  have hcause : failure.OfCall call state.store := by
    rw [← hstore]
    cases intrinsic with
    | add => exact State.runAdd_failure hname h
    | print => exact State.runPrint_failure hname h
  cases hcause with
  | statement hnone => rw [hname] at hnone; cases hnone
  | unknownFunction hnone => rw [hname] at hnone; cases hnone
  | arity _ expected got => exact .arity expected got
  | unknownVariable _ hb hfind => exact absurd hfind (hdeclared _ hb)
  | invalidOperand => exact .operand _ _
  | refusal hprint r =>
    obtain rfl := Option.some.inj (hname.symm.trans hprint)
    obtain ⟨l, told, value, hlistener, hrefuses⟩ := State.runPrint_refusal h
    exact .refusal hlistener hrefuses

/-! ## How a run fails -/

/-- Everything that makes a run fail. -/
inductive Fails (setup : Setup) (journal : Array Event) : Failure → Prop where
  /-- A body stops at one of its statements. -/
  | statement {stage : Nat} {body : List Statement} {state : State} {statement : Statement}
      {failure : Failure} (henters : setup.Enters journal stage body state)
      (hstops : StopsAt body state statement failure) : Fails setup journal failure
  /-- A scan meets a call that is bound to a variable which is not declared. -/
  | scan {steps : Nat} {state : State} {name : String}
      (hreach : setup.advance steps (setup.start (.initial journal)) = .draining state)
      (hselect : state.queue.select state.store = .error (.unplaced (.unknownVariable name))) :
      Fails setup journal (.fault (.unplaced (.unknownVariable name)))
  /-- Calls are queued and none can run. -/
  | deadlock (queued : Nat) : Fails setup journal (.fault (.unplaced (.deadlocked queued)))
  /-- The dispatch limit refuses a call, and can be written. -/
  | limit (hwritten : Text.withinDigitLimit setup.limit = true) :
      Fails setup journal (.fault (.unplaced (.dispatchLimit setup.limit)))
  /-- The dispatch limit refuses a call, and has too many digits. -/
  | unwritableLimit (hunwritten : Text.withinDigitLimit setup.limit = false) :
      Fails setup journal (.unwritableLimit setup.limit)
  /-- The entry function, or the function of a call that is no intrinsic one, is not defined. -/
  | unknownFunction {name : String} (hfind : setup.program.find? name = none) :
      Fails setup journal (.fault (.unplaced (.unknownFunction name)))
  /-- A call of an intrinsic function fails. -/
  | intrinsic {call : PendingCall} {failure : Failure} (h : failure.OfIntrinsic setup call) :
      Fails setup journal failure

/-- A scan that meets a call it cannot check selects nothing. -/
theorem select_eq_error {state : State} {before after : Queue} {call : PendingCall} {fault : Fault}
    (hqueue : state.queue = before ++ call :: after)
    (hbefore : ∀ other ∈ before, other.eligible state.store = .ok false)
    (hcall : call.eligible state.store = .error fault) :
    state.queue.select state.store = .error fault := by
  rw [Queue.select, hqueue, Queue.survey_append hbefore (by simp [hcall]), hcall]
  rfl

/-- A dispatch that fails. -/
theorem fails_of_dispatch {steps : Nat} {state : State} {before after : Queue} {call : PendingCall}
    {failure : Failure}
    (hreach : setup.advance steps (setup.start (.initial journal)) = .draining state)
    (hselects : state.Selects before call after)
    (h : (setup.dispatch call (state.taking before after)).failure = some failure) :
    setup.Fails journal failure := by
  cases hlimit : setup.exhausted (state.taking before after) with
  | true =>
    rw [dispatch_of_exhausted call hlimit] at h
    obtain rfl := Option.some.inj h
    cases hwritten : Text.withinDigitLimit setup.limit with
    | true => exact Failure.overLimit_of_within hwritten ▸ .limit hwritten
    | false => exact Failure.overLimit_of_not_within hwritten ▸ .unwritableLimit hwritten
  | false =>
    rw [dispatch_of_not_exhausted call hlimit] at h
    cases hname : Intrinsic.ofName? call.function with
    | some intrinsic =>
      simp only [hname] at h
      exact .intrinsic (runIntrinsic_failure hselects hname h)
    | none =>
      simp only [hname] at h
      rcases runFunction_stopped h with ⟨hfind, rfl⟩ | ⟨f, statement, hfind, hstops⟩
      · exact .unknownFunction hfind
      · exact .statement (.call hreach hselects hlimit hname hfind) hstops

/-- A step of draining that fails. -/
theorem fails_of_drain {steps : Nat} {state : State} {outcome : Outcome} {failure : Failure}
    (hreach : setup.advance steps (setup.start (.initial journal)) = .draining state)
    (hend : setup.drain state = .ended outcome) (h : outcome.failure = some failure) :
    setup.Fails journal failure := by
  have hstep := setup.drained state
  rw [hend] at hstep
  generalize hnext : Run.ended outcome = next at hstep
  cases hstep with
  | halted hqueue =>
    obtain rfl := Run.ended.inj hnext
    cases h
  | stuck hqueue hnone =>
    obtain rfl := Run.ended.inj hnext
    obtain rfl := Option.some.inj h
    exact .deadlock _
  | faulty hqueue hbefore hcall =>
    obtain rfl := Run.ended.inj hnext
    obtain rfl := Option.some.inj h
    obtain ⟨b, -, -, rfl⟩ := exists_of_eligibleBindings_eq_error hcall
    exact .scan hreach (select_eq_error hqueue hbefore hcall)
  | @dispatched before after call hqueue hbefore hcall =>
    cases hdispatch : setup.dispatch call (state.taking before after) with
    | mk last stopped =>
      rw [hdispatch] at hnext
      cases stopped with
      | none => cases hnext
      | some stopped =>
        obtain rfl := Run.ended.inj hnext
        obtain rfl := Option.some.inj h
        exact fails_of_dispatch hreach ⟨hqueue, hbefore, hcall⟩ (congrArg Outcome.failure hdispatch)

/-- Every failure of a run is in the list. -/
theorem fails_of_run {steps : Nat} {outcome : Outcome} {failure : Failure}
    (hrun : setup.run steps (.initial journal) = some outcome)
    (h : outcome.failure = some failure) : setup.Fails journal failure := by
  rcases exists_last_step (run_eq_some_iff.1 hrun) with hstart | ⟨earlier, state, -, hreach, hend⟩
  · -- the run ended in its entry function
    rw [setup.start_eq_afterEntry journal] at hstart
    cases hentry : setup.runFunction entryName ((State.initial journal).move .running) with
    | mk last stopped =>
      rw [hentry] at hstart
      cases stopped with
      | none => cases hstart
      | some stopped =>
        obtain rfl := Run.ended.inj hstart
        obtain rfl := Option.some.inj h
        rcases runFunction_stopped (congrArg Outcome.failure hentry) with
          ⟨hfind, rfl⟩ | ⟨f, statement, hfind, hstops⟩
        · exact .unknownFunction hfind
        · exact .statement (.entry hfind) hstops
  · exact fails_of_drain hreach hend h

end Setup

end Dataflow
