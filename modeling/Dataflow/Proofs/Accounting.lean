import Dataflow.Proofs.DispatchLimit
import Dataflow.Proofs.Endings
import Dataflow.Proofs.History

/-!
# The books on the calls of a run

One step of draining takes at most one call out of the queue, and whatever comes of it, the calls it
enqueues come behind those that are left; `Setup.Booked` lists what a step can do to the queue, the
number of dispatches and the history (`Setup.booked_drain`). By induction on the steps, every call
that was enqueued has been begun, is queued, or is the one that the dispatch limit refused
(`State.Accounts`, `Setup.books_advance`).

Main statement: `no_call_is_lost`.
-/

set_option autoImplicit false

namespace Dataflow

/-! ## Scans that find a call -/

/-- The scan of a state selects a call: it is eligible, and those ahead of it are not. -/
structure State.Selects (state : State) (before : Queue) (call : PendingCall) (after : Queue) :
    Prop where
  queue : state.queue = before ++ call :: after
  ahead : ∀ other ∈ before, other.eligible state.store = .ok false
  eligible : call.eligible state.store = .ok true

namespace State.Selects

variable {state : State} {before after : Queue} {call : PendingCall}

theorem select_eq (h : state.Selects before call after) :
    state.queue.select state.store = .ok (.runnable before.length call) := by
  rw [Queue.select, h.queue, Queue.survey_append h.ahead (by simp [h.eligible]), h.eligible]
  rfl

theorem eraseIdx_eq (h : state.Selects before call after) :
    state.queue.eraseIdx before.length = before ++ after := by
  rw [h.queue, List.eraseIdx_append_of_length_le (Nat.le_refl _), Nat.sub_self,
    List.eraseIdx_cons_zero]

/-- The calls ahead of the selected one are the ineligible ones in front. -/
theorem ineligible_of_lt (h : state.Selects before call after) {index : Nat} {other : PendingCall}
    (hindex : index < before.length) (hother : state.queue[index]? = some other) :
    other.eligible state.store = .ok false := by
  apply h.ahead
  rw [h.queue, List.getElem?_append_left hindex] at hother
  exact List.mem_of_getElem? hother

end State.Selects

/-! ## What a step does to the books -/

/-- The failures that report the dispatch limit: a fault names it, unless it cannot be written. -/
inductive Failure.ReportsLimit : Failure → Prop where
  | named (limit : Int) (line : Option Int) : ReportsLimit (.fault ⟨.dispatchLimit limit, line⟩)
  | unwritable (limit : Int) : ReportsLimit (.unwritableLimit limit)

theorem Failure.reportsLimit_overLimit (limit : Int) : (overLimit limit).ReportsLimit := by
  rw [overLimit]
  split
  · exact .named limit none
  · exact .unwritable limit

/-- The run ended because the dispatch limit refused a call. -/
def Outcome.Refused (outcome : Outcome) : Prop :=
  ∃ failure, outcome.failure = some failure ∧ failure.ReportsLimit

/-- A call that is carried out does not report the dispatch limit. -/
theorem Failure.OfCall.not_reportsLimit {call : PendingCall} {store : Store} {failure : Failure}
    (h : failure.OfCall call store) : ¬ failure.ReportsLimit := by
  intro hlimit
  cases hlimit with
  | named limit line =>
    cases h with
    | statement hname hcause => cases hcause
  | unwritable limit => cases h

/-- A run does not end by a refusal if it goes on, or ends with another failure. -/
def Run.Refused : Run → Prop
  | .draining _ => False
  | .ended outcome => outcome.Refused

theorem Run.not_refused_fail {state : State} {phase : Phase} {failure : Failure}
    (h : ¬ failure.ReportsLimit) : ¬ (Run.fail state phase failure).Refused := by
  rintro ⟨other, hother, hlimit⟩
  obtain rfl := Option.some.inj hother
  exact h hlimit

theorem Run.refused_overLimit (state : State) (phase : Phase) (limit : Int) :
    (Run.fail state phase (.overLimit limit)).Refused :=
  ⟨_, rfl, Failure.reportsLimit_overLimit limit⟩

/-- What one step of draining does to the queue and the number of dispatches, and what it
records. -/
inductive Setup.Booked (setup : Setup) (state : State) (next : Run) (history : History) : Prop where
  /-- The scan selects nothing, and the run ends. -/
  | idle (hselect : ∀ index call, state.queue.select state.store ≠ .ok (.runnable index call))
      (hqueue : next.state.queue = state.queue)
      (hdispatches : next.state.dispatches = state.dispatches) (hquiet : history.Quiet)
      (hrefused : ¬ next.Refused)
  /-- The selected call is taken and refused, and the run ends. -/
  | refused {before after : Queue} {call : PendingCall} (hselects : state.Selects before call after)
      (hqueue : next.state.queue = before ++ after)
      (hdispatches : next.state.dispatches = state.dispatches) (hquiet : history.Quiet)
      (hend : next = .fail (state.taking before after) .failed (.overLimit setup.limit))
  /-- The selected call is taken and its dispatch begun, however that comes out. -/
  | begun {before after : Queue} {call : PendingCall} (hselects : state.Selects before call after)
      (hqueue : next.state.queue = before ++ after ++ history.enqueued)
      (hdispatches : next.state.dispatches = state.dispatches + 1)
      (hbegun : history.begun = [call])
      (hcalled : history.enqueued.map PendingCall.function = history.called)
      (hrefused : ¬ next.Refused)

/-- How a dispatch came out is recorded, but is not about calls. -/
theorem Run.afterDispatch_records (outcome : Outcome) :
    ∃ history : History, history.Quiet ∧
      (Run.afterDispatch outcome).state.Records outcome.state history := by
  rcases Run.state_afterDispatch outcome with hstate | hstate
  · rw [hstate]
    exact ⟨[], History.quiet_nil, .nothing rfl rfl⟩
  · rw [hstate]
    exact ⟨_, History.quiet_moved _ _, .move outcome.state .failed⟩

/-- The calls passed over by a scan are recorded, but that is not about calls. -/
theorem State.noteSkipped_records (state : State) (skipped : List PendingCall) :
    (state.noteSkipped skipped).Records state (skipped.map Event.skipped) where
  journal := by rw [noteSkipped_eq]
  queue := by rw [queue_noteSkipped, (History.quiet_skipped skipped).enqueued, List.append_nil]
  begun := (History.quiet_skipped skipped).begun

/-- The history up to the moment in which a selected call is carried out. -/
def History.opening (before : Queue) (number : Nat) (call : PendingCall) : History :=
  before.map Event.skipped ++ [.dispatched number call]

namespace History

variable (before : Queue) (number : Nat) (call : PendingCall)

theorem enqueued_opening : (opening before number call).enqueued = [] := by
  rw [opening, enqueued_append, (quiet_skipped before).enqueued]
  rfl

theorem begun_opening : (opening before number call).begun = [call] := by
  rw [opening, begun_append, (quiet_skipped before).begun]
  rfl

theorem called_opening : (opening before number call).called = [] := by
  rw [opening, called_append, (quiet_skipped before).called]
  rfl

end History

theorem State.journal_opening_taking (state : State) (before after : Queue) (call : PendingCall) :
    ((state.taking before after).opening call).journal =
      state.journal ++ (History.opening before (state.dispatches + 1) call).toArray := by
  rw [taking_eq]
  simp [opening, State.note, History.opening]

namespace Setup

/-- A dispatch that is begun takes one call and appends those it enqueues. -/
theorem booked_begun {setup : Setup} {state : State} {before after : Queue} {call : PendingCall}
    (hselects : state.Selects before call after)
    (hlimit : setup.exhausted (state.taking before after) = false) :
    ∃ history : History,
      (Run.afterDispatch (setup.dispatch call (state.taking before after))).state.journal =
        state.journal ++ history.toArray ∧
      setup.Booked state (.afterDispatch (setup.dispatch call (state.taking before after)))
        history := by
  obtain ⟨body, hbody, hfunctions, -⟩ := dispatch_records call hlimit
  have hcount := (dispatch_carried call hlimit).dispatches
  have hrefused : ¬ (Run.afterDispatch
      (setup.dispatch call (state.taking before after))).Refused := by
    cases hdispatch : setup.dispatch call (state.taking before after) with
    | mk next failure =>
      cases failure with
      | none => exact id
      | some failure =>
        have hfailure := dispatch_failure hlimit (congrArg Outcome.failure hdispatch)
        exact Run.not_refused_fail hfailure.not_reportsLimit
  -- from here on only what the dispatch recorded and counted matters
  generalize setup.dispatch call (state.taking before after) = outcome at hbody hcount hrefused ⊢
  obtain ⟨last, hlast, hrecords⟩ := Run.afterDispatch_records outcome
  have hrest := hbody.trans hrecords
  obtain ⟨henqueued, -, hcalled⟩ := History.quiet_nil.around hlast body
  rw [List.nil_append] at henqueued hcalled
  refine ⟨History.opening before (state.dispatches + 1) call ++ (body ++ last), ?_,
    .begun hselects ?_ ?_ ?_ ?_ hrefused⟩
  · exact History.journal_append (state.journal_opening_taking before after call) hrest.journal
  · rw [hrest.queue, History.enqueued_append (.opening _ _ _), History.enqueued_opening,
      State.taking_eq]
    rfl
  · rw [Run.dispatches_afterDispatch, hcount, State.taking_eq]
    rfl
  · rw [History.begun_append, History.begun_opening, hrest.begun]
    rfl
  · rw [History.enqueued_append, History.enqueued_opening, History.called_append,
      History.called_opening, List.nil_append, List.nil_append, henqueued, hcalled, hfunctions]

/-- A scan that selects nothing ends the run, with the books as they were. -/
theorem booked_idle (setup : Setup) {state : State} (skipped : List PendingCall) (phase : Phase)
    {failure : Failure}
    (hselect : ∀ index call, state.queue.select state.store ≠ .ok (.runnable index call))
    (hfailure : ¬ failure.ReportsLimit) :
    ∃ history : History,
      (Run.fail (state.noteSkipped skipped) phase failure).state.journal =
        state.journal ++ history.toArray ∧
      setup.Booked state (.fail (state.noteSkipped skipped) phase failure) history := by
  have hrecords := (state.noteSkipped_records skipped).trans (.move _ phase)
  have hquiet := (History.quiet_skipped skipped).append
    (History.quiet_moved (state.noteSkipped skipped).phase phase)
  refine ⟨_, hrecords.journal, .idle hselect ?_ ?_ hquiet (Run.not_refused_fail hfailure)⟩
  · exact state.queue_noteSkipped skipped
  · exact state.dispatches_noteSkipped skipped

/-- A refused call is taken out of the queue all the same. -/
theorem booked_refused {setup : Setup} {state : State} {before after : Queue} {call : PendingCall}
    (hselects : state.Selects before call after) :
    ∃ history : History,
      (Run.fail (state.taking before after) .failed (.overLimit setup.limit)).state.journal =
        state.journal ++ history.toArray ∧
      setup.Booked state (.fail (state.taking before after) .failed (.overLimit setup.limit))
        history := by
  have hskipped : (state.taking before after).journal =
      state.journal ++ (before.map Event.skipped).toArray := by
    rw [State.taking_eq]
  have hmove := State.Records.move (state.taking before after) .failed
  have hquiet := (History.quiet_skipped before).append
    (History.quiet_moved (state.taking before after).phase .failed)
  refine ⟨_, History.journal_append hskipped hmove.journal, .refused hselects rfl ?_ hquiet rfl⟩
  exact state.dispatches_noteSkipped before

/-- Every step of draining is in the list. -/
theorem booked_drain (setup : Setup) (state : State) :
    ∃ history : History, (setup.drain state).state.journal = state.journal ++ history.toArray ∧
      setup.Booked state (setup.drain state) history := by
  have hstep := setup.drained state
  generalize setup.drain state = next at hstep ⊢
  cases hstep with
  | halted hqueue =>
    have hrecords := State.Records.move state .halted
    refine ⟨_, hrecords.journal, .idle ?_ rfl rfl (History.quiet_moved _ _) ?_⟩
    · intro index call
      rw [hqueue]
      intro h
      cases h
    · rintro ⟨failure, hfailure, -⟩
      cases hfailure
  | stuck hqueue hnone =>
    apply setup.booked_idle
    · intro index call
      rw [Queue.select, Queue.survey_of_ineligible hqueue hnone]
      intro h
      cases h
    · intro h
      cases h
  | @faulty before after call fault hqueue hbefore hcall =>
    apply setup.booked_idle
    · intro index other
      rw [Queue.select, hqueue, Queue.survey_append hbefore (by simp [hcall]), hcall]
      intro h
      cases h
    · -- checking a call only misses variables
      obtain ⟨b, -, -, rfl⟩ := exists_of_eligibleBindings_eq_error hcall
      intro h
      cases h
  | @dispatched before after call hqueue hbefore hcall =>
    have hselects : state.Selects before call after := ⟨hqueue, hbefore, hcall⟩
    cases hlimit : setup.exhausted (state.taking before after) with
    | false => exact booked_begun hselects hlimit
    | true =>
      rw [dispatch_of_exhausted call hlimit]
      exact booked_refused hselects

/-- The entry function is not subject to the dispatch limit. -/
theorem not_refused_start (setup : Setup) (journal : Array Event) :
    ¬ (setup.start (.initial journal)).Refused := by
  cases hstart : setup.start (.initial journal) with
  | draining state => exact id
  | ended outcome =>
    rintro ⟨failure, hfailure, hlimit⟩
    rcases start_failure hstart hfailure with ⟨fault, rfl, hcause⟩ | rfl
    · cases hlimit
      cases hcause
    · cases hlimit

end Setup

/-! ## No call is lost -/

/-- The books balance: the queue holds calls that were enqueued, in their order; each of the calls
enqueued was begun, or refused, or is queued; and as many were begun as dispatches are counted. -/
structure State.Accounts (state : State) (history : History) (refused : List PendingCall) :
    Prop where
  ordered : state.queue.Sublist history.enqueued
  complete : history.enqueued.Perm (history.begun ++ refused ++ state.queue)
  counted : history.begun.length = state.dispatches

namespace State.Accounts

variable {state next : State} {history later : History} {before after : Queue} {call : PendingCall}

/-- Nothing is taken and nothing is enqueued. -/
theorem idle (h : state.Accounts history []) (hqueue : next.queue = state.queue)
    (hdispatches : next.dispatches = state.dispatches) (hquiet : later.Quiet) :
    next.Accounts (history ++ later) [] where
  ordered := by
    rw [hqueue, History.enqueued_append, hquiet.enqueued, List.append_nil]
    exact h.ordered
  complete := by
    rw [hqueue, History.enqueued_append, History.begun_append, hquiet.enqueued, hquiet.begun,
      List.append_nil, List.append_nil]
    exact h.complete
  counted := by
    rw [hdispatches, History.begun_append, hquiet.begun, List.append_nil]
    exact h.counted

/-- The calls around the selected one are queued in the order in which they were enqueued. -/
theorem ordered_around (h : state.Accounts history [])
    (hselects : state.Selects before call after) :
    (before ++ after).Sublist history.enqueued := by
  have hqueue := h.ordered
  rw [hselects.queue] at hqueue
  exact ((List.Sublist.refl before).append (List.sublist_cons_self call after)).trans hqueue

/-- The selected call is set apart from those around it. -/
theorem complete_around (h : state.Accounts history [])
    (hselects : state.Selects before call after) :
    history.enqueued.Perm (history.begun ++ [call] ++ (before ++ after)) := by
  have hcomplete := h.complete
  rw [hselects.queue, List.append_nil] at hcomplete
  refine hcomplete.trans ?_
  rw [List.append_assoc]
  exact List.Perm.append_left _ List.perm_middle

/-- The selected call is taken and refused. -/
theorem refused (h : state.Accounts history []) (hselects : state.Selects before call after)
    (hqueue : next.queue = before ++ after) (hdispatches : next.dispatches = state.dispatches)
    (hquiet : later.Quiet) : next.Accounts (history ++ later) [call] where
  ordered := by
    rw [hqueue, History.enqueued_append, hquiet.enqueued, List.append_nil]
    exact h.ordered_around hselects
  complete := by
    rw [hqueue, History.enqueued_append, History.begun_append, hquiet.enqueued, hquiet.begun,
      List.append_nil, List.append_nil]
    exact h.complete_around hselects
  counted := by
    rw [hdispatches, History.begun_append, hquiet.begun, List.append_nil]
    exact h.counted

/-- The selected call is taken and begun, and calls are enqueued. -/
theorem begun (h : state.Accounts history []) (hselects : state.Selects before call after)
    (hqueue : next.queue = before ++ after ++ later.enqueued)
    (hdispatches : next.dispatches = state.dispatches + 1) (hbegun : later.begun = [call]) :
    next.Accounts (history ++ later) [] where
  ordered := by
    rw [hqueue, History.enqueued_append]
    exact (h.ordered_around hselects).append (List.Sublist.refl _)
  complete := by
    rw [hqueue, History.enqueued_append, History.begun_append, hbegun, List.append_nil,
      ← List.append_assoc]
    exact (h.complete_around hselects).append_right _
  counted := by
    rw [hdispatches, History.begun_append, hbegun, List.length_append, h.counted]
    rfl

end State.Accounts

namespace Setup

/-- How the books of a run can stand: they balance, or they are short of the call that the last scan
selected and the dispatch limit refused. -/
inductive Books (setup : Setup) (journal : Array Event) (run : Run) (history : History) : Prop where
  | balanced (hfree : ¬ run.Refused) (haccounts : run.state.Accounts history [])
  | short {earlier : Nat} {state : State} {before after : Queue} {call : PendingCall}
      (hreach : setup.advance earlier (setup.start (.initial journal)) = .draining state)
      (hdrain : setup.drain state = run) (hselects : state.Selects before call after)
      (hend : run = .fail (state.taking before after) .failed (.overLimit setup.limit))
      (hqueue : run.state.queue = before ++ after)
      (haccounts : run.state.Accounts history [call])

/-- The books of a new run balance: what is queued is what the entry function enqueued. -/
theorem books_start (setup : Setup) (journal : Array Event) :
    ∃ history : History,
      (setup.start (.initial journal)).state.journal = journal ++ history.toArray ∧
      setup.Books journal (setup.start (.initial journal)) history := by
  obtain ⟨history, hrecords, -, -⟩ := setup.start_records journal
  have hqueue : (setup.start (.initial journal)).state.queue = history.enqueued := hrecords.queue
  refine ⟨history, hrecords.journal, .balanced (setup.not_refused_start journal) ⟨?_, ?_, ?_⟩⟩
  · exact hqueue ▸ List.Sublist.refl _
  · rw [hrecords.begun]
    exact hqueue ▸ List.Perm.refl _
  · rw [hrecords.begun, setup.dispatches_start journal]
    rfl

/-- The books stand in one of the two ways after any number of steps. -/
theorem books_advance (setup : Setup) (journal : Array Event) (steps : Nat) :
    ∃ history : History,
      (setup.advance steps (setup.start (.initial journal))).state.journal =
        journal ++ history.toArray ∧
      setup.Books journal (setup.advance steps (setup.start (.initial journal))) history := by
  induction steps with
  | zero => exact setup.books_start journal
  | succ steps ih =>
    rw [advance_succ_last]
    cases hreach : setup.advance steps (setup.start (.initial journal)) with
    | ended outcome =>
      rw [hreach] at ih
      exact ih
    | draining state =>
      rw [hreach] at ih
      obtain ⟨history, hjournal, hbooks⟩ := ih
      cases hbooks with
      | short _ _ _ hend => cases hend
      | balanced _ haccounts =>
        -- a run that drains has refused nothing so far, so its books balance
        obtain ⟨later, hlater, hbooked⟩ := setup.booked_drain state
        refine ⟨history ++ later, History.journal_append hjournal hlater, ?_⟩
        cases hbooked with
        | idle hselect hqueue hdispatches hquiet hfree =>
          exact .balanced hfree (haccounts.idle hqueue hdispatches hquiet)
        | refused hselects hqueue hdispatches hquiet hend =>
          exact .short hreach rfl hselects hend hqueue
            (haccounts.refused hselects hqueue hdispatches hquiet)
        | begun hselects hqueue hdispatches hbegun hcalled hfree =>
          exact .balanced hfree (haccounts.begun hselects hqueue hdispatches hbegun)

/-- The books balance at every scheduling point. -/
theorem accounts_of_draining {setup : Setup} {journal : Array Event} {steps : Nat} {state : State}
    (hreach : setup.advance steps (setup.start (.initial journal)) = .draining state) :
    state.Accounts (state.since journal) [] := by
  have hstands := setup.books_advance journal steps
  rw [hreach] at hstands
  obtain ⟨history, hjournal, hbooks⟩ := hstands
  have hsince : state.since journal = history := State.since_eq hjournal
  rw [hsince]
  cases hbooks with
  | balanced _ haccounts => exact haccounts
  | short _ _ _ hend => cases hend

/-- No call is lost and none is carried out twice. At every scheduling point and at the end of a run
the queue holds calls that were enqueued, in their order, and the calls enqueued are those begun and
those queued. Only a call that the dispatch limit refuses is in neither: it is the one that the last
scan selected, and the failure is that of a call beyond the limit. A run that halts has begun exactly
the calls that were enqueued. -/
theorem no_call_is_lost (setup : Setup) (journal : Array Event) :
    (∀ steps state, setup.advance steps (setup.start (.initial journal)) = .draining state →
      state.Accounts (state.since journal) []) ∧
    (∀ steps outcome, setup.run steps (.initial journal) = some outcome →
      (¬ outcome.Refused → outcome.state.Accounts (outcome.state.since journal) []) ∧
      (outcome.Refused → ∃ earlier state index call,
        setup.advance earlier (setup.start (.initial journal)) = .draining state ∧
        setup.drain state = .ended outcome ∧
        state.queue.select state.store = .ok (.runnable index call) ∧
        outcome.state.queue = state.queue.eraseIdx index ∧
        outcome.failure = some (.overLimit setup.limit) ∧
        outcome.state.Accounts (outcome.state.since journal) [call]) ∧
      (outcome.state.phase = .halted →
        (outcome.state.since journal).enqueued.Perm (outcome.state.since journal).begun)) := by
  refine ⟨fun steps state hreach => accounts_of_draining hreach, ?_⟩
  intro steps outcome hrun
  have hstands := setup.books_advance journal steps
  have hsettled := setup.settled_advance journal steps
  rw [run_eq_some_iff.1 hrun] at hstands hsettled
  obtain ⟨history, hjournal, hbooks⟩ := hstands
  have hsince : outcome.state.since journal = history := State.since_eq hjournal
  rw [hsince]
  cases hbooks with
  | balanced hfree haccounts =>
    refine ⟨fun _ => haccounts, fun hrefused => absurd hrefused hfree, ?_⟩
    intro hphase
    have hcomplete : history.enqueued.Perm (history.begun ++ [] ++ outcome.state.queue) :=
      haccounts.complete
    rw [(hsettled.halted hphase).queue, List.append_nil, List.append_nil] at hcomplete
    exact hcomplete
  | @short earlier state before after call hreach hdrain hselects hend hqueue haccounts =>
    have hfailure : outcome.failure = some (.overLimit setup.limit) :=
      congrArg Outcome.failure (Run.ended.inj hend)
    have hrefused : outcome.Refused := ⟨_, hfailure, Failure.reportsLimit_overLimit setup.limit⟩
    refine ⟨fun hfree => absurd hrefused hfree, ?_, ?_⟩
    · intro _
      exact ⟨earlier, state, before.length, call, hreach, hdrain, hselects.select_eq,
        hqueue.trans hselects.eraseIdx_eq.symm, hfailure, haccounts⟩
    · -- a run that halts reports no failure
      intro hphase
      have hnone := (hsettled.halted hphase).failure.symm.trans hfailure
      cases hnone

/-- A limit of 2 refuses the third of three prints, which is then neither begun nor queued; without
a limit all three are begun. -/
theorem no_call_is_lost_three_prints :
    (∃ outcome, (threePrints.withLimit 2).run 3 (.initial #[]) = some outcome ∧
      outcome.state.queue = [] ∧
      outcome.state.Accounts (outcome.state.since #[]) [⟨"print", [⟨"a", .input⟩]⟩]) ∧
    ∃ outcome, threePrints.run 4 (.initial #[]) = some outcome ∧
      (outcome.state.since #[]).begun.length = 3 := by
  constructor
  · obtain ⟨outcome, hrun, hrefused, hqueue, henqueued⟩ : ∃ outcome,
        (threePrints.withLimit 2).run 3 (.initial #[]) = some outcome ∧ outcome.Refused ∧
          outcome.state.queue = [] ∧ (outcome.state.since #[]).enqueued =
            List.replicate 3 ⟨"print", [⟨"a", .input⟩]⟩ :=
      ⟨_, rfl, Run.refused_overLimit _ _ 2, rfl, rfl⟩
    obtain ⟨-, hshort, -⟩ := ((threePrints.withLimit 2).no_call_is_lost #[]).2 3 outcome hrun
    obtain ⟨-, -, -, call, -, -, -, -, -, haccounts⟩ := hshort hrefused
    -- the refused call was enqueued, and the calls enqueued are all alike
    have hcall : call ∈ (outcome.state.since #[]).enqueued :=
      haccounts.complete.mem_iff.2 (by simp)
    rw [henqueued] at hcall
    obtain rfl := List.eq_of_mem_replicate hcall
    exact ⟨outcome, hrun, hqueue, haccounts⟩
  · obtain ⟨outcome, hrun, hphase, hlength⟩ : ∃ outcome,
        threePrints.run 4 (.initial #[]) = some outcome ∧ outcome.state.phase = .halted ∧
          (outcome.state.since #[]).enqueued.length = 3 := ⟨_, rfl, rfl, rfl⟩
    obtain ⟨-, -, hhalted⟩ := (threePrints.no_call_is_lost #[]).2 4 outcome hrun
    exact ⟨outcome, hrun, (hhalted hphase).length_eq.symm.trans hlength⟩

/-- A negative limit that no fault can name: the first of three prints is lost, and the run does not
end with the fault that names a limit. -/
theorem call_lost_without_limit_fault :
    ∃ outcome, (threePrints.withLimit (-longLimit)).run 1 (.initial #[]) = some outcome ∧
      (∀ limit line, outcome.failure ≠ some (.fault ⟨.dispatchLimit limit, line⟩)) ∧
      ¬ outcome.state.Accounts (outcome.state.since #[]) [] := by
  obtain ⟨state, hstart, hqueue, hcall, henqueued, hbegun⟩ : ∃ state,
      (threePrints.withLimit (-longLimit)).start (.initial #[]) = .draining state ∧
        state.queue = List.replicate 3 ⟨"print", [⟨"a", .input⟩]⟩ ∧
        PendingCall.eligible ⟨"print", [⟨"a", .input⟩]⟩ state.store = .ok true ∧
        (((state.taking [] (List.replicate 2 ⟨"print", [⟨"a", .input⟩]⟩)).move .failed).since
          #[]).enqueued.length = 3 ∧
        (((state.taking [] (List.replicate 2 ⟨"print", [⟨"a", .input⟩]⟩)).move .failed).since
          #[]).begun = [] :=
    ⟨_, rfl, rfl, rfl, rfl, rfl⟩
  refine ⟨_, run_neg_longLimit rfl hstart hqueue (List.forall_mem_nil _) hcall, nofun, ?_⟩
  intro haccounts
  -- three calls were enqueued, none was begun and two are queued
  have hlength := haccounts.complete.length_eq
  rw [Outcome.stopped, henqueued, hbegun] at hlength
  cases hlength

end Setup

end Dataflow
