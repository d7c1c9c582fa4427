import Dataflow.Proofs.Draining

/-!
# The dispatch limit

A limited run goes step by step with the unlimited one for as long as that one keeps to the limit
(`Setup.advance_withLimit`), and the first dispatch beyond it is refused. Since each step of
draining begins at most one dispatch, and exactly one if the run goes on
(`Setup.dispatches_of_draining`), the number of steps tells the number of dispatches, and the
refused call is the one that the scan after exactly `limit` steps selects.

Main statement: `limited_run_is_prefix`. The refused call is lost from the queue: the limit is
checked after the call was taken. The failure names the limit, unless the limit has too many digits
to be written (`limit_too_long_to_be_named`).
-/

set_option autoImplicit false

namespace Dataflow

namespace Setup

/-! ## Counting dispatches -/

/-- A step begins a dispatch, or ends the run without one. -/
theorem drain_dispatches (setup : Setup) (state : State) :
    (∃ outcome, setup.drain state = .ended outcome ∧
      outcome.state.dispatches = state.dispatches) ∨
    (setup.drain state).state.dispatches = state.dispatches + 1 := by
  have hstep := setup.drained state
  generalize setup.drain state = run at hstep
  cases hstep with
  | halted hqueue => exact Or.inl ⟨_, rfl, rfl⟩
  | stuck hqueue hnone => exact Or.inl ⟨_, rfl, state.dispatches_noteSkipped state.queue⟩
  | @faulty before after call fault hqueue hbefore hcall =>
    exact Or.inl ⟨_, rfl, state.dispatches_noteSkipped before⟩
  | @dispatched before after call hqueue hbefore hcall =>
    cases hlimit : setup.exhausted (state.taking before after) with
    | true =>
      -- a refused call is not counted
      rw [dispatch_of_exhausted call hlimit]
      exact Or.inl ⟨_, rfl, state.dispatches_noteSkipped before⟩
    | false =>
      right
      have hcarried := dispatch_carried call hlimit
      rw [Run.dispatches_afterDispatch, hcarried.dispatches, State.taking_eq]
      rfl

/-- A step begins at most one dispatch. -/
theorem dispatches_step (setup : Setup) (run : Run) :
    run.state.dispatches ≤ (setup.step run).state.dispatches ∧
      (setup.step run).state.dispatches ≤ run.state.dispatches + 1 := by
  cases run with
  | ended outcome => exact ⟨Nat.le_refl _, Nat.le_succ _⟩
  | draining state =>
    rw [step]
    rcases setup.drain_dispatches state with ⟨outcome, hend, hcount⟩ | hcount
    · rw [hend]
      simp only [Run.state]
      omega
    · rw [hcount]
      simp only [Run.state]
      omega

/-- The number of dispatches never decreases, and steps bound it. -/
theorem dispatches_advance (setup : Setup) (steps : Nat) (run : Run) :
    run.state.dispatches ≤ (setup.advance steps run).state.dispatches ∧
      (setup.advance steps run).state.dispatches ≤ run.state.dispatches + steps := by
  induction steps generalizing run with
  | zero => exact ⟨Nat.le_refl _, Nat.le_refl _⟩
  | succ steps ih =>
    rw [advance_succ]
    have hfirst := setup.dispatches_step run
    have hrest := ih (setup.step run)
    omega

/-- A run that goes on has begun a dispatch with every step. -/
theorem dispatches_of_draining {setup : Setup} {steps : Nat} {run : Run} {state : State}
    (h : setup.advance steps run = .draining state) :
    state.dispatches = run.state.dispatches + steps := by
  induction steps generalizing run with
  | zero =>
    have hrun : run = .draining state := h
    rw [hrun]
    rfl
  | succ steps ih =>
    cases run with
    | ended outcome => cases h
    | draining first =>
      have hrest : setup.advance steps (setup.drain first) = .draining state := h
      rcases setup.drain_dispatches first with ⟨outcome, hend, -⟩ | hcount
      · -- a step without a dispatch ends the run, and then it cannot go on
        rw [hend, advance_ended] at hrest
        cases hrest
      · rw [ih hrest, hcount, Run.state]
        omega

/-- A run starts without dispatches. -/
theorem dispatches_start (setup : Setup) (journal : Array Event) :
    (setup.start (.initial journal)).state.dispatches = 0 := by
  obtain ⟨outcome, hcarried, ⟨-, hstart⟩ | ⟨failure, -, hstart⟩⟩ := setup.start_initial journal
  · rw [hstart]
    exact hcarried.dispatches
  · rw [hstart]
    exact hcarried.dispatches

/-! ## Two limits -/

/-- The same machine with another limit. -/
def withLimit (setup : Setup) (limit : Int) : Setup := { setup with limit }

theorem exhausted_withLimit_zero (setup : Setup) (state : State) :
    (setup.withLimit 0).exhausted state = false := rfl

theorem exhausted_withLimit_iff (setup : Setup) {limit : Nat} (hlimit : 0 < limit)
    (state : State) :
    (setup.withLimit limit).exhausted state = true ↔ limit ≤ state.dispatches := by
  have hne : (limit : Int) ≠ 0 := by omega
  rw [exhausted, Bool.and_eq_true, decide_eq_true_iff, decide_eq_true_iff]
  simp only [withLimit]
  omega

/-- A call that is not refused is carried out as without a limit. -/
theorem dispatch_withLimit (setup : Setup) {limit : Int} {state : State} (call : PendingCall)
    (h : (setup.withLimit limit).exhausted state = false) :
    (setup.withLimit limit).dispatch call state = (setup.withLimit 0).dispatch call state := by
  rw [dispatch_of_not_exhausted call h,
    dispatch_of_not_exhausted call (setup.exhausted_withLimit_zero state)]
  rfl

/-- A dispatch that goes beyond the limit shows in the number of dispatches. -/
theorem dispatches_dispatch_withLimit_zero (setup : Setup) (call : PendingCall) (state : State) :
    (Run.afterDispatch ((setup.withLimit 0).dispatch call state)).state.dispatches =
      state.dispatches + 1 := by
  rw [Run.dispatches_afterDispatch]
  exact (dispatch_carried call (setup.exhausted_withLimit_zero state)).dispatches

/-- A step that keeps to the limit is the step without a limit. -/
theorem drain_withLimit (setup : Setup) {limit : Nat} (hlimit : 0 < limit) {state : State}
    (h : ((setup.withLimit 0).drain state).state.dispatches ≤ limit) :
    (setup.withLimit limit).drain state = (setup.withLimit 0).drain state := by
  have hstep := (setup.withLimit 0).drained state
  generalize hnext : (setup.withLimit 0).drain state = next at hstep h
  cases hstep with
  | halted hqueue => exact (Drained.halted hqueue).drain_eq
  | stuck hqueue hnone => exact (Drained.stuck hqueue hnone).drain_eq
  | faulty hqueue hbefore hcall => exact (Drained.faulty hqueue hbefore hcall).drain_eq
  | @dispatched before after call hqueue hbefore hcall =>
    rw [dispatches_dispatch_withLimit_zero] at h
    -- the limit is compared with the number before the dispatch, which is one less
    have hfree : (setup.withLimit limit).exhausted (state.taking before after) = false := by
      apply Bool.of_not_eq_true
      intro hfull
      have hle := (setup.exhausted_withLimit_iff hlimit _).1 hfull
      omega
    rw [(Drained.dispatched hqueue hbefore hcall).drain_eq, setup.dispatch_withLimit call hfree]

/-- A run goes on as without a limit for as long as that one keeps to the limit. -/
theorem advance_withLimit (setup : Setup) {limit : Nat} (hlimit : 0 < limit) {steps : Nat}
    {run : Run} (h : ((setup.withLimit 0).advance steps run).state.dispatches ≤ limit) :
    (setup.withLimit limit).advance steps run = (setup.withLimit 0).advance steps run := by
  induction steps generalizing run with
  | zero => rfl
  | succ steps ih =>
    cases run with
    | ended outcome => rfl
    | draining state =>
      have hrest : ((setup.withLimit 0).advance steps
          ((setup.withLimit 0).drain state)).state.dispatches ≤ limit := h
      -- dispatches are never taken back, so the first step keeps to the limit too
      have hfirst := ((setup.withLimit 0).dispatches_advance steps
        ((setup.withLimit 0).drain state)).1
      have hdrain := setup.drain_withLimit hlimit (Nat.le_trans hfirst hrest)
      show (setup.withLimit limit).advance steps ((setup.withLimit limit).drain state) =
        (setup.withLimit 0).advance steps ((setup.withLimit 0).drain state)
      rw [hdrain]
      exact ih hrest

/-- A run that comes to a state with its dispatches used up and a call selected ends there: the call
is taken from the queue and refused. -/
theorem run_of_exhausted {setup : Setup} {steps : Nat} {first state : State} {before after : Queue}
    {call : PendingCall} (hreach : setup.advance steps (setup.start first) = .draining state)
    (hfull : setup.exhausted state = true) (hqueue : state.queue = before ++ call :: after)
    (hbefore : ∀ other ∈ before, other.eligible state.store = .ok false)
    (hcall : call.eligible state.store = .ok true) :
    setup.run (steps + 1) first =
      some (.stopped ((state.taking before after).move .failed) (.overLimit setup.limit)) := by
  -- taking a call out of the queue begins no dispatch
  have htaken : setup.exhausted (state.taking before after) = true := by
    rw [State.taking_eq]
    exact hfull
  rw [run_eq_some_iff, advance_succ_last, hreach, step,
    (Drained.dispatched hqueue hbefore hcall).drain_eq, dispatch_of_exhausted call htaken]
  rfl

/-- A run that does not end within the limit goes on up to it, and then selects one more call. -/
theorem exists_selected_at_limit (setup : Setup) (journal : Array Event) (limit : Nat)
    (h : ∀ steps outcome, (setup.withLimit 0).run steps (.initial journal) = some outcome →
      limit < outcome.state.dispatches) :
    ∃ state before after call,
      (setup.withLimit 0).advance limit ((setup.withLimit 0).start (.initial journal)) =
        .draining state ∧
      state.dispatches = limit ∧ state.queue = before ++ call :: after ∧
      (∀ other ∈ before, other.eligible state.store = .ok false) ∧
      call.eligible state.store = .ok true := by
  have hstart := (setup.withLimit 0).dispatches_start journal
  cases hreach : (setup.withLimit 0).advance limit
      ((setup.withLimit 0).start (.initial journal)) with
  | ended outcome =>
    -- `limit` steps begin at most `limit` dispatches
    have hmany := h limit outcome (run_eq_some_iff.2 hreach)
    have hfew := ((setup.withLimit 0).dispatches_advance limit
      ((setup.withLimit 0).start (.initial journal))).2
    rw [hreach, hstart] at hfew
    simp only [Run.state] at hfew
    omega
  | draining state =>
    have hcount : state.dispatches = limit := by
      rw [dispatches_of_draining hreach, hstart, Nat.zero_add]
    -- an end of the run here would be an end with exactly `limit` dispatches
    have hgoes : ∀ outcome, (setup.withLimit 0).drain state = .ended outcome →
        limit < outcome.state.dispatches := by
      intro outcome hend
      apply h (limit + 1) outcome
      rw [run_eq_some_iff, advance_add, hreach]
      exact hend
    have hstep := (setup.withLimit 0).drained state
    generalize (setup.withLimit 0).drain state = next at hstep hgoes
    cases hstep with
    | halted hqueue =>
      have hlt : limit < state.dispatches := hgoes _ rfl
      omega
    | stuck hqueue hnone =>
      have hlt : limit < (state.noteSkipped state.queue).dispatches := hgoes _ rfl
      rw [State.dispatches_noteSkipped] at hlt
      omega
    | @faulty before after call fault hqueue hbefore hcall =>
      have hlt : limit < (state.noteSkipped before).dispatches := hgoes _ rfl
      rw [State.dispatches_noteSkipped] at hlt
      omega
    | @dispatched before after call hqueue hbefore hcall =>
      exact ⟨state, before, after, call, rfl, hcount, hqueue, hbefore, hcall⟩

/-! ## The limited run -/

/-- A run that ends within the limit is not changed by it. -/
theorem run_withLimit (setup : Setup) {limit : Nat} (hlimit : 0 < limit) {steps : Nat}
    {state : State} {outcome : Outcome}
    (hrun : (setup.withLimit 0).run steps state = some outcome)
    (hfew : outcome.state.dispatches ≤ limit) :
    (setup.withLimit limit).run steps state = some outcome := by
  have hend := run_eq_some_iff.1 hrun
  have hkeeps : ((setup.withLimit 0).advance steps
      ((setup.withLimit 0).start state)).state.dispatches ≤ limit := by
    rw [hend]
    exact hfew
  rw [run_eq_some_iff, ← hend]
  exact setup.advance_withLimit hlimit hkeeps

/-- A run that comes to the limit with a call selected ends with its refusal. -/
theorem run_cut_at_limit (setup : Setup) {limit : Nat} (hlimit : 0 < limit)
    {first state : State} {before after : Queue} {call : PendingCall}
    (hreach : (setup.withLimit 0).advance limit ((setup.withLimit 0).start first) =
      .draining state)
    (hcount : state.dispatches = limit) (hqueue : state.queue = before ++ call :: after)
    (hbefore : ∀ other ∈ before, other.eligible state.store = .ok false)
    (hcall : call.eligible state.store = .ok true) :
    (setup.withLimit limit).run (limit + 1) first =
      some (.stopped ((state.taking before after).move .failed) (.overLimit limit)) := by
  have hkeeps : ((setup.withLimit 0).advance limit
      ((setup.withLimit 0).start first)).state.dispatches ≤ limit := by
    rw [hreach]
    exact Nat.le_of_eq hcount
  have hsame := (setup.advance_withLimit hlimit hkeeps).trans hreach
  have hfull := (setup.exhausted_withLimit_iff hlimit state).2 (Nat.le_of_eq hcount.symm)
  exact run_of_exhausted hsame hfull hqueue hbefore hcall

/-- A run with a limit is a prefix of the run without one: it is that run if that one ends with at
most `limit` dispatches, and else it ends at the scan behind the last of them, whose call it takes
and refuses. Either way it ends. The failure is a fault that names the limit, if the limit can be
written. -/
theorem limited_run_is_prefix (setup : Setup) (journal : Array Event) (limit : Nat)
    (hlimit : 0 < limit) :
    (∀ steps outcome, (setup.withLimit 0).run steps (.initial journal) = some outcome →
      outcome.state.dispatches ≤ limit →
      (setup.withLimit limit).run steps (.initial journal) = some outcome) ∧
    ((∀ steps outcome, (setup.withLimit 0).run steps (.initial journal) = some outcome →
        limit < outcome.state.dispatches) →
      ∃ state index call outcome,
        (setup.withLimit 0).advance limit ((setup.withLimit 0).start (.initial journal)) =
          .draining state ∧
        state.dispatches = limit ∧
        state.queue.select state.store = .ok (.runnable index call) ∧
        ((setup.withLimit 0).drain state).state.dispatches = limit + 1 ∧
        (setup.withLimit limit).run (limit + 1) (.initial journal) = some outcome ∧
        (Text.withinDigitLimit limit = true →
          outcome.failure = some (.fault (.unplaced (.dispatchLimit limit)))) ∧
        (Text.withinDigitLimit limit = false →
          outcome.failure = some (.unwritableLimit limit)) ∧
        outcome.state.phase = .failed ∧
        outcome.state.dispatches = limit ∧
        outcome.state.store = state.store ∧
        outcome.state.bindings = state.bindings ∧
        outcome.state.output = state.output ∧
        outcome.state.queue = state.queue.eraseIdx index) ∧
    (∃ steps outcome, (setup.withLimit limit).run steps (.initial journal) = some outcome) := by
  refine ⟨fun steps outcome => setup.run_withLimit hlimit, ?_, ?_⟩
  · intro hmany
    obtain ⟨state, before, after, call, hreach, hcount, hqueue, hbefore, hcall⟩ :=
      setup.exists_selected_at_limit journal limit hmany
    have hrun := setup.run_cut_at_limit hlimit hreach hcount hqueue hbefore hcall
    rw [State.taking_eq] at hrun
    have hselect : state.queue.select state.store = .ok (.runnable before.length call) := by
      rw [Queue.select, hqueue, Queue.survey_append hbefore (by simp [hcall]), hcall]
      rfl
    have hnext : ((setup.withLimit 0).drain state).state.dispatches = limit + 1 := by
      rw [(Drained.dispatched hqueue hbefore hcall).drain_eq,
        dispatches_dispatch_withLimit_zero, State.taking_eq, hcount]
    have hrest : before ++ after = state.queue.eraseIdx before.length := by
      rw [hqueue, List.eraseIdx_append_of_length_le (Nat.le_refl _), Nat.sub_self,
        List.eraseIdx_cons_zero]
    refine ⟨state, before.length, call, _, hreach, hcount, hselect, hnext, hrun, ?_, ?_, rfl, hcount,
      rfl, rfl, rfl, hrest⟩
    · intro hwritten
      exact congrArg some (Failure.overLimit_of_within hwritten)
    · intro hunwritten
      exact congrArg some (Failure.overLimit_of_not_within hunwritten)
  · -- whether the unlimited run keeps to the limit cannot be computed, but one of the two holds
    by_cases hends : ∃ steps outcome,
        (setup.withLimit 0).run steps (.initial journal) = some outcome ∧
          outcome.state.dispatches ≤ limit
    · obtain ⟨steps, outcome, hrun, hfew⟩ := hends
      exact ⟨steps, outcome, setup.run_withLimit hlimit hrun hfew⟩
    · have hmany : ∀ steps outcome,
          (setup.withLimit 0).run steps (.initial journal) = some outcome →
          limit < outcome.state.dispatches := by
        intro steps outcome hrun
        apply Nat.lt_of_not_le
        intro hfew
        exact hends ⟨steps, outcome, hrun, hfew⟩
      obtain ⟨state, before, after, call, hreach, hcount, hqueue, hbefore, hcall⟩ :=
        setup.exists_selected_at_limit journal limit hmany
      exact ⟨_, _, setup.run_cut_at_limit hlimit hreach hcount hqueue hbefore hcall⟩

/-- The entry function assigns a variable and queues three prints of it. -/
def threePrints : Setup :=
  let body : List Instruction :=
    [.declare "a" "int", .assign "a" "7", .bind ⟨"a", .input⟩, .call "print",
      .bind ⟨"a", .input⟩, .call "print", .bind ⟨"a", .input⟩, .call "print"]
  ⟨⟨[⟨entryName, [], body.map fun instruction => ⟨instruction, "", 0⟩, 1⟩]⟩, 0, none⟩

/-- Three prints need a limit of 3; with a limit of 2 the third is refused. -/
theorem limited_run_is_prefix_three_prints :
    (∃ outcome, (threePrints.withLimit 3).run 4 (.initial #[]) = some outcome ∧
      outcome.failure = none ∧ outcome.state.dispatches = 3) ∧
    ∃ outcome, (threePrints.withLimit 2).run 3 (.initial #[]) = some outcome ∧
      outcome.failure = some (.fault (.unplaced (.dispatchLimit 2))) ∧
      outcome.state.output.size = 2 := by
  obtain ⟨outcome, hrun, hfailure, hcount⟩ :
      ∃ outcome, (threePrints.withLimit 0).run 4 (.initial #[]) = some outcome ∧
        outcome.failure = none ∧ outcome.state.dispatches = 3 :=
    ⟨_, rfl, rfl, rfl⟩
  constructor
  · have hsame := (threePrints.limited_run_is_prefix #[] 3 (by decide)).1 4 outcome hrun
      (Nat.le_of_eq hcount)
    exact ⟨outcome, hsame, hfailure, hcount⟩
  · have hmany : ∀ steps other, (threePrints.withLimit 0).run steps (.initial #[]) = some other →
        2 < other.state.dispatches := by
      intro steps other hother
      rw [run_unique hother hrun, hcount]
      decide
    obtain ⟨state, index, call, cut, hreach, -, -, -, hcut, hfault, -, -, -, -, -, houtput, -⟩ :=
      (threePrints.limited_run_is_prefix #[] 2 (by decide)).2.1 hmany
    obtain rfl := Run.draining.inj hreach
    refine ⟨cut, hcut, hfault (by decide +kernel), ?_⟩
    rw [houtput]
    rfl

/-! ## Limits that no fault can name -/

/-- The first limit that is too long to be written. -/
@[irreducible]
def longLimit : Nat := Nat.pow 10 Text.digitLimit

theorem longLimit_pos : 0 < longLimit := by
  decide +kernel

theorem withinDigitLimit_longLimit : Text.withinDigitLimit longLimit = false := by
  decide +kernel

theorem withinDigitLimit_neg_longLimit : Text.withinDigitLimit (-longLimit) = false := by
  decide +kernel

/-- A negative limit is exceeded at once. -/
theorem exhausted_of_neg {setup : Setup} (h : setup.limit < 0) (state : State) :
    setup.exhausted state = true := by
  rw [exhausted, Bool.and_eq_true, decide_eq_true_iff, decide_eq_true_iff]
  omega

/-- The first call that a run selects is refused, and the failure cannot name the limit. -/
theorem run_neg_longLimit {setup : Setup} {first state : State} {before after : Queue}
    {call : PendingCall} (hlimit : setup.limit = -longLimit)
    (hstart : setup.start first = .draining state) (hqueue : state.queue = before ++ call :: after)
    (hbefore : ∀ other ∈ before, other.eligible state.store = .ok false)
    (hcall : call.eligible state.store = .ok true) :
    setup.run 1 first = some (.stopped ((state.taking before after).move .failed)
      (.unwritableLimit setup.limit)) := by
  have hpos := longLimit_pos
  have hfull : setup.exhausted state = true := exhausted_of_neg (by omega) state
  have hunwritten : Text.withinDigitLimit setup.limit = false := by
    rw [hlimit]
    exact withinDigitLimit_neg_longLimit
  rw [← Failure.overLimit_of_not_within hunwritten]
  exact run_of_exhausted hstart hfull hqueue hbefore hcall

/-- The entry function queues a call of a function that calls itself. -/
def endlessCalls : Setup :=
  let body : List Statement := [⟨.call "again", "", 0⟩]
  ⟨⟨[⟨entryName, [], body, 1⟩, ⟨"again", [], body, 3⟩]⟩, 0, none⟩

/-- The run goes on, and nothing but the call of the function is queued. -/
def CallsAgain (run : Run) : Prop :=
  ∃ state, run = .draining state ∧ state.queue = [⟨"again", []⟩] ∧ state.bindings = []

/-- A dispatch of the call queues it again. -/
theorem callsAgain_step {run : Run} (h : CallsAgain run) :
    CallsAgain ((endlessCalls.withLimit 0).step run) := by
  obtain ⟨state, rfl, hqueue, hbindings⟩ := h
  have hdrained : Drained (endlessCalls.withLimit 0) state
      (.afterDispatch ((endlessCalls.withLimit 0).dispatch ⟨"again", []⟩ (state.taking [] []))) :=
    .dispatched hqueue (List.forall_mem_nil _) rfl
  rw [step, hdrained.drain_eq]
  refine ⟨_, rfl, ?_, rfl⟩
  show [PendingCall.mk "again" state.bindings] = _
  rw [hbindings]

theorem callsAgain_advance (steps : Nat) :
    CallsAgain ((endlessCalls.withLimit 0).advance steps
      ((endlessCalls.withLimit 0).start (.initial #[]))) := by
  induction steps with
  | zero => exact ⟨_, rfl, rfl, rfl⟩
  | succ steps ih =>
    rw [advance_succ_last]
    exact callsAgain_step ih

/-- The run without a limit never ends, and the limited one is cut off by another failure than the
fault that names the limit. -/
theorem limit_too_long_to_be_named :
    0 < longLimit ∧ endlessCalls.program.defines entryName = true ∧
      (∀ steps, (endlessCalls.withLimit 0).run steps (.initial #[]) = none) ∧
      ∃ outcome, (endlessCalls.withLimit longLimit).run (longLimit + 1) (.initial #[]) =
          some outcome ∧
        outcome.failure ≠ some (.fault (.unplaced (.dispatchLimit longLimit))) := by
  have hforever : ∀ steps, (endlessCalls.withLimit 0).run steps (.initial #[]) = none := by
    intro steps
    obtain ⟨state, hreach, -⟩ := callsAgain_advance steps
    rw [run, hreach]
    rfl
  obtain ⟨state, before, after, call, hreach, hcount, hqueue, hbefore, hcall⟩ :=
    endlessCalls.exists_selected_at_limit #[] longLimit (by
      intro steps outcome hrun
      rw [hforever steps] at hrun
      cases hrun)
  refine ⟨longLimit_pos, rfl, hforever, _,
    endlessCalls.run_cut_at_limit longLimit_pos hreach hcount hqueue hbefore hcall, ?_⟩
  rw [Failure.overLimit_of_not_within withinDigitLimit_longLimit]
  intro h
  cases h

end Setup

end Dataflow
