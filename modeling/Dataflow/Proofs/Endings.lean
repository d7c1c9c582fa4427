import Dataflow.Proofs.Draining

/-!
# How runs end

A run of a new machine that ends does so in exactly one of three ways: it halts with an empty queue
(`Outcome.Halted`), it reports a deadlock of all the calls that are left (`Outcome.Deadlocked`), or
it reports any other failure (`Outcome.Failed`). The phase tells which. The invariant behind this
is `Run.Settled`: no variable is ever reserved, so that an ineligible call always waits for an
input.

Main statement: `run_ends_in_one_way`.
-/

set_option autoImplicit false

namespace Dataflow

/-! ## The three endings -/

namespace Outcome

/-- The run is complete and nothing is queued. -/
structure Halted (outcome : Outcome) : Prop where
  failure : outcome.failure = none
  phase : outcome.state.phase = .halted
  queue : outcome.state.queue = []

/-- The run reports the number of calls that are left, and each of them waits for an input. -/
structure Deadlocked (outcome : Outcome) : Prop where
  failure : outcome.failure =
    some (.fault (.unplaced (.deadlocked outcome.state.queue.length)))
  phase : outcome.state.phase = .deadlocked
  queued : 1 ≤ outcome.state.queue.length
  ineligible : ∀ call ∈ outcome.state.queue, call.eligible outcome.state.store = .ok false
  waiting : ∀ call ∈ outcome.state.queue, ∃ b ∈ call.bindings, b.direction = .input ∧
    ∃ v, outcome.state.store.find? b.name = some v ∧ v.ready = false

/-- The run reports a failure other than a deadlock. -/
structure Failed (outcome : Outcome) : Prop where
  failure : ∃ failure, outcome.failure = some failure ∧ ¬ failure.ReportsDeadlock
  phase : outcome.state.phase = .failed

theorem Halted.not_deadlocked {outcome : Outcome} (h : outcome.Halted) : ¬ outcome.Deadlocked := by
  intro hother
  have hphase := h.phase.symm.trans hother.phase
  cases hphase

theorem Halted.not_failed {outcome : Outcome} (h : outcome.Halted) : ¬ outcome.Failed := by
  intro hother
  have hphase := h.phase.symm.trans hother.phase
  cases hphase

theorem Deadlocked.not_failed {outcome : Outcome} (h : outcome.Deadlocked) :
    ¬ outcome.Failed := by
  intro hother
  have hphase := h.phase.symm.trans hother.phase
  cases hphase

end Outcome

/-! ## The invariant of a run -/

/-- While a run drains no variable is reserved, and it ends in one of the three ways. -/
def Run.Settled : Run → Prop
  | .draining state => state.store.Unbound
  | .ended outcome => outcome.Halted ∨ outcome.Deadlocked ∨ outcome.Failed

/-- An end with a failure that no deadlock causes. -/
theorem Run.settled_fail (state : State) {failure : Failure} (h : failure.OfDispatch) :
    (Run.fail state .failed failure).Settled :=
  Or.inr (Or.inr ⟨⟨failure, rfl, h.not_reportsDeadlock⟩, rfl⟩)

/-- The phase tells that a run has halted. -/
theorem Run.Settled.halted {outcome : Outcome} (h : (Run.ended outcome).Settled)
    (hphase : outcome.state.phase = .halted) : outcome.Halted := by
  rcases h with hhalted | hdeadlocked | hfailed
  · exact hhalted
  · have hother := hphase.symm.trans hdeadlocked.phase
    cases hother
  · have hother := hphase.symm.trans hfailed.phase
    cases hother

namespace Setup

/-- A dispatch leaves no variable reserved, and a run that it ends has failed. -/
theorem settled_afterDispatch (setup : Setup) (call : PendingCall) {state : State}
    (h : state.store.Unbound) : (Run.afterDispatch (setup.dispatch call state)).Settled := by
  cases hlimit : setup.exhausted state with
  | true =>
    rw [dispatch_of_exhausted call hlimit]
    exact Run.settled_fail state (Failure.ofDispatch_overLimit setup.limit)
  | false =>
    have hcarried := dispatch_carried call hlimit
    cases hdispatch : setup.dispatch call state with
    | mk state' failure =>
      rw [hdispatch] at hcarried
      cases failure with
      | none => exact hcarried.store.keep Store.Unbound.change h
      | some failure => exact Run.settled_fail state' (hcarried.failure failure rfl)

/-- Calls of which none is eligible end a run in a deadlock. -/
theorem deadlocked_of_stuck {state : State} (hunbound : state.store.Unbound)
    (hqueue : state.queue ≠ [])
    (hnone : ∀ call ∈ state.queue, call.eligible state.store = .ok false) :
    (Outcome.stopped ((state.noteSkipped state.queue).move .deadlocked)
      (.fault (.unplaced (.deadlocked state.queue.length)))).Deadlocked := by
  rw [State.noteSkipped_eq]
  refine ⟨rfl, rfl, List.length_pos_iff.2 hqueue, hnone, ?_⟩
  intro call hcall
  exact PendingCall.waiting_of_ineligible hunbound (hnone call hcall)

/-- One step keeps the invariant. -/
theorem settled_step (setup : Setup) (run : Run) (h : run.Settled) : (setup.step run).Settled := by
  cases run with
  | ended outcome => exact h
  | draining state =>
    have hstep := setup.drained state
    rw [step]
    generalize setup.drain state = next at hstep
    cases hstep with
    | halted hqueue => exact Or.inl ⟨rfl, rfl, hqueue⟩
    | stuck hqueue hnone => exact Or.inr (Or.inl (deadlocked_of_stuck h hqueue hnone))
    | faulty hqueue hbefore hcall =>
      -- a check faults only at a variable that is not declared, and that is no deadlock
      obtain ⟨b, -, -, rfl⟩ := exists_of_eligibleBindings_eq_error hcall
      exact Run.settled_fail _ (.fault (.statement (.unknownVariable b.name)))
    | @dispatched before after call hqueue hbefore hcall =>
      apply settled_afterDispatch
      rw [State.taking_eq]
      exact h

/-- A new machine starts with the invariant: its store is empty before the entry function. -/
theorem settled_start (setup : Setup) (journal : Array Event) :
    (setup.start (.initial journal)).Settled := by
  have hempty : Store.Unbound .empty := fun v hv => absurd hv List.not_mem_nil
  obtain ⟨outcome, hcarried, ⟨-, hstart⟩ | ⟨failure, hfailure, hstart⟩⟩ :=
    setup.start_initial journal
  · rw [hstart]
    exact hcarried.store.keep Store.Unbound.change hempty
  · rw [hstart]
    exact Run.settled_fail outcome.state (hcarried.failure failure hfailure)

theorem settled_advance (setup : Setup) (journal : Array Event) (steps : Nat) :
    (setup.advance steps (setup.start (.initial journal))).Settled :=
  advance_keep setup.settled_step steps (setup.settled_start journal)

/-! ## The classification -/

/-- A run of a new machine that ends has halted, is deadlocked or has failed, and only one of the
three; and when a scan meets calls none of which is eligible, the run ends with the next step, in a
deadlock and in no other way. -/
theorem run_ends_in_one_way (setup : Setup) (journal : Array Event) :
    (∀ steps outcome, setup.run steps (.initial journal) = some outcome →
      (outcome.Halted ∧ ¬ outcome.Deadlocked ∧ ¬ outcome.Failed) ∨
      (¬ outcome.Halted ∧ outcome.Deadlocked ∧ ¬ outcome.Failed) ∨
      (¬ outcome.Halted ∧ ¬ outcome.Deadlocked ∧ outcome.Failed)) ∧
    (∀ steps state, setup.advance steps (setup.start (.initial journal)) = .draining state →
      state.queue ≠ [] → (∀ call ∈ state.queue, call.eligible state.store = .ok false) →
      (∃ outcome, setup.run (steps + 1) (.initial journal) = some outcome) ∧
      ∀ more outcome, setup.run more (.initial journal) = some outcome →
        outcome.Deadlocked ∧ ¬ outcome.Halted ∧ ¬ outcome.Failed) := by
  constructor
  · intro steps outcome hrun
    have hsettled := setup.settled_advance journal steps
    rw [run_eq_some_iff.1 hrun] at hsettled
    -- the phases of the three endings differ, so that no two of them hold
    rcases hsettled with hhalted | hdeadlocked | hfailed
    · exact Or.inl ⟨hhalted, hhalted.not_deadlocked, hhalted.not_failed⟩
    · exact Or.inr (Or.inl
        ⟨fun h => h.not_deadlocked hdeadlocked, hdeadlocked, hdeadlocked.not_failed⟩)
    · exact Or.inr (Or.inr
        ⟨fun h => h.not_failed hfailed, fun h => h.not_failed hfailed, hfailed⟩)
  · intro steps state hreach hqueue hnone
    have hunbound := setup.settled_advance journal steps
    rw [hreach] at hunbound
    have hend : setup.run (steps + 1) (.initial journal) =
        some (.stopped ((state.noteSkipped state.queue).move .deadlocked)
          (.fault (.unplaced (.deadlocked state.queue.length)))) := by
      rw [run_eq_some_iff, advance_add, hreach]
      exact (Drained.stuck hqueue hnone).drain_eq
    refine ⟨⟨_, hend⟩, ?_⟩
    intro more outcome hrun
    -- a run has one outcome, so the deadlock is the only end
    obtain rfl := run_unique hend hrun
    have hdeadlocked := deadlocked_of_stuck hunbound hqueue hnone
    exact ⟨hdeadlocked, fun h => h.not_deadlocked hdeadlocked, hdeadlocked.not_failed⟩

/-- The entry function queues a print of a variable that nothing assigns. -/
def unassignedPrint : Setup :=
  let body : List Instruction := [.declare "a" "int", .bind ⟨"a", .input⟩, .call "print"]
  ⟨⟨[⟨entryName, [], body.map fun instruction => ⟨instruction, "", 0⟩, 1⟩]⟩, 0, none⟩

/-- A print of an unassigned variable deadlocks at the first scan. -/
theorem run_ends_in_one_way_unassigned_print :
    ∃ outcome, unassignedPrint.run 1 (.initial #[]) = some outcome ∧ outcome.Deadlocked := by
  have hnone : ∀ call ∈ (unassignedPrint.start (.initial #[])).state.queue,
      call.eligible (unassignedPrint.start (.initial #[])).state.store = .ok false := by
    intro call hcall
    obtain rfl := List.mem_singleton.1 hcall
    rfl
  obtain ⟨⟨outcome, hrun⟩, hends⟩ :=
    (unassignedPrint.run_ends_in_one_way #[]).2 0 _ rfl (by decide) hnone
  exact ⟨outcome, hrun, (hends 1 outcome hrun).1⟩

end Setup

end Dataflow
