import Dataflow.Machine.Run
import Dataflow.Proofs.Execution

/-!
# Steps of draining and whole runs

`Setup.Drained` lists what one step of draining can do, by what its scan finds: halt, deadlock,
fail at a call that cannot be checked, or dispatch the first eligible call. Every step is in the
list (`Setup.drained`), and the list determines it (`Setup.Drained.drain_eq`). What every step
keeps holds along a whole run (`Setup.advance_keep`), and a run has one outcome
(`Setup.run_unique`).
-/

set_option autoImplicit false

namespace Dataflow

/-! ## Scans on a state -/

namespace State

/-- Recording events changes the journal only. -/
theorem noteAll_eq (state : State) (events : List Event) :
    state.noteAll events = { state with journal := state.journal ++ events.toArray } := by
  induction events generalizing state with
  | nil => simp [noteAll]
  | cons event events ih =>
    have h := ih (state.note event)
    rw [noteAll] at h ⊢
    rw [List.foldl_cons, h]
    simp [note]

/-- Scanning changes the journal only. -/
theorem noteSkipped_eq (state : State) (skipped : List PendingCall) :
    state.noteSkipped skipped =
      { state with journal := state.journal ++ (skipped.map Event.skipped).toArray } :=
  state.noteAll_eq (skipped.map Event.skipped)

@[simp] theorem store_noteSkipped (state : State) (skipped : List PendingCall) :
    (state.noteSkipped skipped).store = state.store := by
  rw [noteSkipped_eq]

@[simp] theorem queue_noteSkipped (state : State) (skipped : List PendingCall) :
    (state.noteSkipped skipped).queue = state.queue := by
  rw [noteSkipped_eq]

@[simp] theorem output_noteSkipped (state : State) (skipped : List PendingCall) :
    (state.noteSkipped skipped).output = state.output := by
  rw [noteSkipped_eq]

@[simp] theorem dispatches_noteSkipped (state : State) (skipped : List PendingCall) :
    (state.noteSkipped skipped).dispatches = state.dispatches := by
  rw [noteSkipped_eq]

/-- The state in which the call behind `before` is dispatched. -/
def taking (state : State) (before after : Queue) : State :=
  { state.noteSkipped before with queue := before ++ after }

theorem taking_eq (state : State) (before after : Queue) :
    state.taking before after =
      { state with
        queue := before ++ after
        journal := state.journal ++ (before.map Event.skipped).toArray } := by
  rw [taking, noteSkipped_eq]

end State

/-- A dispatch keeps a run going, or ends it with a failure. -/
def Run.afterDispatch : Outcome → Run
  | ⟨state, none⟩ => .draining state
  | ⟨state, some failure⟩ => .fail state .failed failure

/-- The entry function is followed by draining, unless it ends the run with a failure. -/
def Run.afterEntry : Outcome → Run
  | ⟨state, none⟩ => .draining (state.move .draining)
  | ⟨state, some failure⟩ => .fail state .failed failure

/-- What comes of a dispatch changes the phase at most. -/
theorem Run.state_afterDispatch (outcome : Outcome) :
    (Run.afterDispatch outcome).state = outcome.state ∨
      (Run.afterDispatch outcome).state = outcome.state.move .failed := by
  obtain ⟨state, failure⟩ := outcome
  cases failure with
  | none => exact Or.inl rfl
  | some failure => exact Or.inr rfl

/-- What comes of the entry function changes the phase. -/
theorem Run.state_afterEntry (outcome : Outcome) :
    ∃ phase, (Run.afterEntry outcome).state = outcome.state.move phase := by
  obtain ⟨state, failure⟩ := outcome
  cases failure with
  | none => exact ⟨.draining, rfl⟩
  | some failure => exact ⟨.failed, rfl⟩

/-- How a run goes on makes no difference to the number of dispatches. -/
theorem Run.dispatches_afterDispatch (outcome : Outcome) :
    (Run.afterDispatch outcome).state.dispatches = outcome.state.dispatches := by
  obtain ⟨state, failure⟩ := outcome
  cases failure with
  | none => rfl
  | some failure => rfl

/-! ## One step -/

namespace Setup

/-- What one step of draining can do. -/
inductive Drained (setup : Setup) (state : State) : Run → Prop where
  | halted (hqueue : state.queue = []) : Drained setup state (.halt state)
  | stuck (hqueue : state.queue ≠ [])
      (hnone : ∀ call ∈ state.queue, call.eligible state.store = .ok false) :
      Drained setup state
        (.fail (state.noteSkipped state.queue) .deadlocked
          (.fault (.unplaced (.deadlocked state.queue.length))))
  | faulty {before after : Queue} {call : PendingCall} {fault : Fault}
      (hqueue : state.queue = before ++ call :: after)
      (hbefore : ∀ other ∈ before, other.eligible state.store = .ok false)
      (hcall : call.eligible state.store = .error fault) :
      Drained setup state (.fail (state.noteSkipped before) .failed (.fault fault))
  | dispatched {before after : Queue} {call : PendingCall}
      (hqueue : state.queue = before ++ call :: after)
      (hbefore : ∀ other ∈ before, other.eligible state.store = .ok false)
      (hcall : call.eligible state.store = .ok true) :
      Drained setup state (.afterDispatch (setup.dispatch call (state.taking before after)))

/-- The list leaves no choice: what it gives for a state is the step. -/
theorem Drained.drain_eq {setup : Setup} {state : State} {run : Run}
    (h : Drained setup state run) : setup.drain state = run := by
  cases h with
  | halted hqueue =>
    rw [drain, State.pop, State.select, hqueue]
    rfl
  | stuck hqueue hnone =>
    rw [drain, State.pop, State.select, Queue.survey_of_ineligible hqueue hnone]
    show Run.fail (state.noteSkipped state.queue) .deadlocked
      (.fault (.unplaced (.deadlocked (state.noteSkipped state.queue).queue.length))) = _
    rw [State.queue_noteSkipped]
  | faulty hqueue hbefore hcall =>
    rw [drain, State.pop, State.select, hqueue, Queue.survey_append hbefore (by simp [hcall]),
      hcall]
    rfl
  | @dispatched before after call hqueue hbefore hcall =>
    -- the scan gives the place of the call, and taking it out leaves what is around it
    have htaken : { state.noteSkipped before with
        queue := (state.noteSkipped before).queue.remove (.runnable before.length call) } =
        state.taking before after := by
      rw [State.taking, State.queue_noteSkipped, hqueue, Queue.remove,
        List.eraseIdx_append_of_length_le (Nat.le_refl _), Nat.sub_self, List.eraseIdx_cons_zero]
    rw [drain, State.pop, State.select, hqueue, Queue.survey_append hbefore (by simp [hcall]),
      hcall]
    simp only [Except.map, htaken]
    -- the two ways a dispatch can come out are the two equations of `Run.afterDispatch`
    cases setup.dispatch call (state.taking before after) with
    | mk state' failure =>
      cases failure with
      | none => rfl
      | some failure => rfl

/-- Every step is in the list. -/
theorem drained (setup : Setup) (state : State) : Drained setup state (setup.drain state) := by
  -- the list determines the step, so it is enough that it has an entry for every state
  have hsome : ∃ run, Drained setup state run := by
    rcases Queue.eligible_split state.store state.queue with
      hnone | ⟨before, call, after, hqueue, hbefore, hcall⟩
    · by_cases hqueue : state.queue = []
      · exact ⟨_, .halted hqueue⟩
      · exact ⟨_, .stuck hqueue hnone⟩
    · cases heligible : call.eligible state.store with
      | error fault => exact ⟨_, .faulty hqueue hbefore heligible⟩
      | ok flag =>
        cases flag with
        | false => exact absurd heligible hcall
        | true => exact ⟨_, .dispatched hqueue hbefore heligible⟩
  obtain ⟨run, hrun⟩ := hsome
  rw [hrun.drain_eq]
  exact hrun

/-! ## Whole runs -/

/-- A machine that has not run carries out its entry function first. -/
theorem start_of_initializing (setup : Setup) {state : State} (h : state.phase = .initializing) :
    setup.start state = .afterEntry (setup.runFunction entryName (state.move .running)) := by
  rw [start, h]
  simp only
  cases setup.runFunction entryName (state.move .running) with
  | mk later failure =>
    cases failure with
    | none => rfl
    | some failure => rfl

/-- A new machine carries out its entry function first. -/
theorem start_eq_afterEntry (setup : Setup) (journal : Array Event) :
    setup.start (.initial journal) =
      .afterEntry (setup.runFunction entryName ((State.initial journal).move .running)) :=
  setup.start_of_initializing rfl

/-- A new machine carries out its entry function, and then drains its queue or fails. -/
theorem start_initial (setup : Setup) (journal : Array Event) :
    ∃ outcome : Outcome, outcome.Carried ((State.initial journal).move .running) ∧
      ((outcome.failure = none ∧
          setup.start (.initial journal) = .draining (outcome.state.move .draining)) ∨
        ∃ failure, outcome.failure = some failure ∧
          setup.start (.initial journal) = .fail outcome.state .failed failure) := by
  have hcarried := setup.runFunction_carried entryName ((State.initial journal).move .running)
  rw [setup.start_eq_afterEntry journal]
  generalize setup.runFunction entryName ((State.initial journal).move .running) = outcome
    at hcarried ⊢
  refine ⟨outcome, hcarried, ?_⟩
  obtain ⟨state, failure⟩ := outcome
  cases failure with
  | none => exact Or.inl ⟨rfl, rfl⟩
  | some failure => exact Or.inr ⟨failure, rfl, rfl⟩

/-- One more step can be taken first. -/
theorem advance_succ (setup : Setup) (steps : Nat) (run : Run) :
    setup.advance (steps + 1) run = setup.advance steps (setup.step run) := by
  cases run with
  | draining state => rfl
  | ended outcome => rw [advance_ended, step, advance_ended]

/-- One more step can be taken last. -/
theorem advance_succ_last (setup : Setup) (steps : Nat) (run : Run) :
    setup.advance (steps + 1) run = setup.step (setup.advance steps run) := by
  rw [advance_add, advance_succ]
  rfl

/-- What every step keeps, a run keeps. -/
theorem advance_keep {setup : Setup} {P : Run → Prop} (hstep : ∀ run, P run → P (setup.step run))
    (steps : Nat) {run : Run} (h : P run) : P (setup.advance steps run) := by
  induction steps generalizing run with
  | zero => exact h
  | succ steps ih =>
    rw [advance_succ]
    exact ih (hstep run h)

/-- A run that ended within some number of steps has ended after more of them. -/
theorem advance_of_le {setup : Setup} {fewer more : Nat} {run : Run} {outcome : Outcome}
    (hle : fewer ≤ more) (h : setup.advance fewer run = .ended outcome) :
    setup.advance more run = .ended outcome := by
  obtain ⟨extra, rfl⟩ := Nat.exists_eq_add_of_le hle
  rw [advance_add, h, advance_ended]

/-- A run that ends has ended at its start, or ends with one of its steps. -/
theorem exists_last_step {setup : Setup} {steps : Nat} {run : Run} {outcome : Outcome}
    (h : setup.advance steps run = .ended outcome) :
    run = .ended outcome ∨ ∃ earlier state, earlier < steps ∧
      setup.advance earlier run = .draining state ∧ setup.drain state = .ended outcome := by
  induction steps with
  | zero => exact Or.inl h
  | succ steps ih =>
    rw [advance_succ_last] at h
    cases hreach : setup.advance steps run with
    | draining state =>
      rw [hreach] at h
      exact Or.inr ⟨steps, state, Nat.lt_succ_self steps, hreach, h⟩
    | ended other =>
      rw [hreach] at h
      rcases ih (hreach.trans h) with hstart | ⟨earlier, state, hlt, hlast⟩
      · exact Or.inl hstart
      · exact Or.inr ⟨earlier, state, Nat.lt_succ_of_lt hlt, hlast⟩

/-- Draining comes to one end. -/
theorem advance_unique {setup : Setup} {first second : Nat} {run : Run} {outcome other : Outcome}
    (h : setup.advance first run = .ended outcome)
    (hother : setup.advance second run = .ended other) : outcome = other := by
  rcases Nat.le_total first second with hle | hle
  · have hmore := advance_of_le hle h
    exact Run.ended.inj (hmore.symm.trans hother)
  · have hmore := advance_of_le hle hother
    exact Run.ended.inj (h.symm.trans hmore)

theorem run_eq_some_iff {setup : Setup} {steps : Nat} {state : State} {outcome : Outcome} :
    setup.run steps state = some outcome ↔
      setup.advance steps (setup.start state) = .ended outcome := by
  rw [run]
  cases setup.advance steps (setup.start state) with
  | draining later => simp [Run.outcome?]
  | ended final => simp [Run.outcome?]

/-- A run has one outcome, whatever the bounds on its steps. -/
theorem run_unique {setup : Setup} {first second : Nat} {state : State} {outcome other : Outcome}
    (h : setup.run first state = some outcome) (hother : setup.run second state = some other) :
    outcome = other :=
  advance_unique (run_eq_some_iff.1 h) (run_eq_some_iff.1 hother)

end Setup

end Dataflow
