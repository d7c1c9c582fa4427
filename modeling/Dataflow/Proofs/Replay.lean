import Dataflow.Proofs.Accumulation
import Dataflow.Proofs.CallText
import Dataflow.Proofs.Changes
import Dataflow.Proofs.Decoding

/-!
# Replaying the journal

Whoever has only the journal can keep the queue: a call is appended where the journal says that it
was enqueued, and the first entry that looks like it is taken out where the journal says that it was
dispatched (`History.replay`). Calls may be queued several times, and a scan may pass over some of
them, but equal calls are eligible together, so that the entry taken is the first of its kind
(`Setup.Retells.begin`). What entries look like is a parameter: the calls themselves, or their
texts, which tell the calls of parsed programs apart (`PendingCall.describe_inj`).

`Setup.Retells` gathers what the journal retells at a moment of a run: the queue, the numbers of the
dispatches, and the length that the queue had right after each call joined it. One lemma for each
part of a step shows that it keeps this.

Main statement: `journal_retells_run`.
-/

set_option autoImplicit false

namespace Dataflow

/-! ## Replay -/

section Replay

variable {α : Type} [DecidableEq α] (label : PendingCall → α)

/-- Keeps a list of queued entries through an event. A dispatch of what is not in the list is not
believed. -/
def Event.replay (queued : List α) : Event → Option (List α)
  | .enqueued call _ => some (queued ++ [label call])
  | .dispatched _ call =>
    if label call ∈ queued then some (queued.erase (label call)) else none
  | _ => some queued

/-- No two different calls of a queue look alike. -/
def Queue.ToldApart (queue : Queue) : Prop :=
  ∀ first ∈ queue, ∀ second ∈ queue, label first = label second → first = second

/-- The number of the dispatch that an event records. -/
def Event.number? : Event → Option Nat
  | .dispatched number _ => some number
  | _ => none

/-- The call that an event records as passed over. -/
def Event.skipped? : Event → Option PendingCall
  | .skipped call => some call
  | _ => none

namespace History

/-- Keeps a list of queued entries through a history. -/
def replayFrom (queued : List α) (history : History) : Option (List α) :=
  history.foldlM (Event.replay label) queued

/-- The entries that are queued after a history that starts with an empty queue. -/
def replay (history : History) : Option (List α) := history.replayFrom label []

/-- The numbers of the dispatches, in the order in which they were begun. -/
def numbers (history : History) : List Nat := history.filterMap Event.number?

/-- The calls that scans passed over. -/
def skipped (history : History) : List PendingCall := history.filterMap Event.skipped?

theorem numbers_append (first second : History) :
    numbers (first ++ second) = numbers first ++ numbers second :=
  List.filterMap_append

theorem skipped_append (first second : History) :
    skipped (first ++ second) = skipped first ++ skipped second :=
  List.filterMap_append

/-- What is replayed after a history starts from what the history comes to. -/
theorem replayFrom_append {first : History} {before queued : List α}
    (h : first.replayFrom label before = some queued) (second : History) :
    (first ++ second).replayFrom label before = second.replayFrom label queued := by
  rw [replayFrom, List.foldlM_append]
  rw [replayFrom] at h
  rw [h]
  rfl

/-- Events other than dispatches append what was enqueued. -/
theorem replayFrom_of_begun {history : History} (h : history.begun = []) (queued : List α) :
    history.replayFrom label queued = some (queued ++ history.enqueued.map label) := by
  induction history generalizing queued with
  | nil => simp [replayFrom, enqueued]
  | cons event history ih =>
    have hcons : replayFrom label queued (event :: history) =
        (event.replay label queued).bind (replayFrom label · history) :=
      List.foldlM_cons
    rw [hcons]
    cases event with
    | dispatched number call => simp [begun, Event.begun?] at h
    | enqueued call length =>
      have hrest := ih h (queued ++ [label call])
      simpa [Event.replay, enqueued, Event.enqueued?] using hrest
    | _ => exact ih h queued

/-- The record of a dispatch takes out the first entry that looks like its call. -/
theorem replayFrom_dispatched {first rest : List α} {call : PendingCall}
    (h : label call ∉ first) (number : Nat) :
    replayFrom label (first ++ label call :: rest) [.dispatched number call] =
      some (first ++ rest) := by
  simp [replayFrom, Event.replay, List.erase_append_right _ h]

/-- Only the record of a dispatch has a number. -/
theorem numbers_of_begun {history : History} (h : history.begun = []) : history.numbers = [] := by
  rw [begun, List.filterMap_eq_nil_iff] at h
  rw [numbers, List.filterMap_eq_nil_iff]
  intro event hevent
  have hnone := h event hevent
  cases event with
  | dispatched number call => cases hnone
  | _ => rfl

/-- A record of a call that joined the queue stands in front of a history that has none. -/
theorem prefix_of_enqueued {history later earlier : History} {call : PendingCall} {length : Nat}
    (hlater : later.enqueued = []) (h : earlier ++ [.enqueued call length] <+: history ++ later) :
    earlier ++ [.enqueued call length] <+: history := by
  induction later using List.reverseRecOn with
  | nil => simpa using h
  | append_singleton later event ih =>
    rw [enqueued_append, List.append_eq_nil_iff] at hlater
    rw [← List.append_assoc, List.prefix_concat_iff] at h
    rcases h with heq | hprefix
    · obtain ⟨-, hevent⟩ := List.append_inj' heq rfl
      rw [← hevent] at hlater
      cases hlater.2
    · exact ih hlater.1 hprefix

end History

end Replay

/-! ## What the journal retells -/

namespace Setup

/-- What the journal retells of a state that a run came to: its queue, if entries look as `label`
says; the numbers of its dispatches, without a gap; and the length that the queue had at the point
right after each call joined it. -/
structure Retells {α : Type} [DecidableEq α] (setup : Setup) (label : PendingCall → α)
    (journal : Array Event) (state : State) (history : History) : Prop where
  recorded : state.journal = journal ++ history.toArray
  queue : history.replay label = some (state.queue.map label)
  numbers : history.numbers = List.range' 1 state.dispatches
  lengths : ∀ earlier call length, earlier ++ [.enqueued call length] <+: history →
    ∃ point trace, setup.Point journal point trace ∧
      point.since journal = earlier ++ [.enqueued call length] ∧ point.queue.length = length

namespace Retells

variable {α : Type} [DecidableEq α] {setup : Setup} {label : PendingCall → α}
  {journal : Array Event} {state next : State} {history later : History}

/-- A new machine has nothing to retell. -/
theorem new (setup : Setup) (label : PendingCall → α) (journal : Array Event) :
    setup.Retells label journal (.initial journal) [] where
  recorded := by simp [State.initial]
  queue := rfl
  numbers := rfl
  lengths := by
    intro earlier call length h
    simp at h

/-- What enqueues nothing and dispatches nothing. -/
theorem quiet (h : setup.Retells label journal state history) (hrecords : next.Records state later)
    (henqueued : later.enqueued = []) (hdispatches : next.dispatches = state.dispatches) :
    setup.Retells label journal next (history ++ later) where
  recorded := History.journal_append h.recorded hrecords.journal
  queue := by
    rw [History.replay, History.replayFrom_append label h.queue,
      History.replayFrom_of_begun label hrecords.begun, hrecords.queue, henqueued, List.map_nil,
      List.append_nil, List.append_nil]
  numbers := by
    rw [History.numbers_append, h.numbers, History.numbers_of_begun hrecords.begun,
      List.append_nil, hdispatches]
  lengths := fun earlier call length hprefix =>
    h.lengths earlier call length (History.prefix_of_enqueued henqueued hprefix)

theorem move (h : setup.Retells label journal state history) (phase : Phase) :
    setup.Retells label journal (state.move phase)
      (history ++ [.moved state.phase phase]) :=
  h.quiet (.move state phase) rfl rfl

theorem note (h : setup.Retells label journal state history) {event : Event}
    (henqueued : event.enqueued? = none) (hbegun : event.begun? = none) :
    setup.Retells label journal (state.note event) (history ++ [event]) :=
  h.quiet (.note henqueued hbegun) (by simp [History.enqueued, henqueued]) rfl

/-- A call joins the queue at a point of the run. -/
theorem enqueue (h : setup.Retells label journal state history) (call : PendingCall)
    {bindings : List Binding} {trace : Trace}
    (hpoint : setup.Point journal { state.enqueue call with bindings } trace) :
    setup.Retells label journal { state.enqueue call with bindings }
      (history ++ [.enqueued call (state.queue.length + 1)]) := by
  have hrecorded : (state.enqueue call).journal =
      journal ++ (history ++ [Event.enqueued call (state.queue.length + 1)]).toArray :=
    History.journal_append h.recorded (by simp [State.enqueue, State.note])
  refine ⟨hrecorded, ?_, ?_, ?_⟩
  · rw [History.replay, History.replayFrom_append label h.queue,
      History.replayFrom_of_begun label rfl]
    simp [State.enqueue, State.note, Queue.enqueue, History.enqueued, Event.enqueued?]
  · rw [History.numbers_append, h.numbers]
    exact List.append_nil _
  · intro earlier other length hprefix
    rw [List.prefix_concat_iff] at hprefix
    rcases hprefix with heq | hprefix
    · obtain ⟨rfl, hevent⟩ := List.append_inj' heq rfl
      obtain ⟨rfl, rfl⟩ := Event.enqueued.inj (List.singleton_inj.1 hevent)
      exact ⟨_, trace, hpoint, State.since_eq hrecorded, List.length_append⟩
    · exact h.lengths earlier other length hprefix

/-- A dispatch begins: the first entry that looks like the selected call is the selected call, as
the calls ahead of it are ineligible. -/
theorem begin (h : setup.Retells label journal state history) {before after : Queue}
    {call : PendingCall} (hselects : state.Selects before call after)
    (hlabel : state.queue.ToldApart label) :
    setup.Retells label journal ((state.taking before after).opening call)
      (history ++ History.opening before (state.dispatches + 1) call) where
  recorded := History.journal_append h.recorded (state.journal_opening_taking before after call)
  queue := by
    have hfirst : label call ∉ before.map label := by
      intro hmem
      obtain ⟨other, hother, hsame⟩ := List.mem_map.1 hmem
      obtain rfl := hlabel other (by simp [hselects.queue, hother]) call
        (by simp [hselects.queue]) hsame
      have hineligible := hselects.ahead other hother
      rw [hselects.eligible] at hineligible
      cases hineligible
    have hqueue : state.queue.map label = before.map label ++ label call :: after.map label := by
      rw [hselects.queue, List.map_append, List.map_cons]
    have hskipped := History.replayFrom_of_begun label (History.quiet_skipped before).begun
      (state.queue.map label)
    rw [(History.quiet_skipped before).enqueued, List.map_nil, List.append_nil] at hskipped
    rw [History.replay, History.replayFrom_append label h.queue, History.opening,
      History.replayFrom_append label hskipped, hqueue, History.replayFrom_dispatched label hfirst,
      ← List.map_append]
    rfl
  numbers := by
    have hskipped := History.numbers_of_begun (History.quiet_skipped before).begun
    have hcount : ((state.taking before after).opening call).dispatches = state.dispatches + 1 := by
      rw [State.taking_eq]
      rfl
    rw [History.numbers_append, History.opening, History.numbers_append, hskipped, h.numbers,
      hcount, List.range'_1_concat, Nat.add_comm 1]
    rfl
  lengths := by
    intro earlier other length hprefix
    have hbefore := History.prefix_of_enqueued (History.enqueued_opening _ _ _) hprefix
    exact h.lengths earlier other length hbefore

/-- A statement that makes no call. -/
theorem execute (h : setup.Retells label journal state history) {statement : Statement}
    (hcallee : statement.callee? = none) :
    ∃ later : History,
      setup.Retells label journal (statement.execute state).state (history ++ later) := by
  obtain ⟨later, hrecords, henqueued⟩ := Statement.execute_records_of_not_call hcallee state
  exact ⟨later, h.quiet hrecords henqueued (statement.execute_executed state).dispatches⟩

/-- The first statements of a body that a run carries out. -/
theorem within {stage : Nat} {before after : List Statement} {middle : State}
    (h : setup.Retells label journal state history)
    (henters : setup.Enters journal stage (before ++ after) state)
    (hbefore : executeAll before state = .done middle) :
    ∃ later : History, setup.Retells label journal middle (history ++ later) := by
  induction before using List.reverseRecOn generalizing after middle with
  | nil =>
    obtain rfl : state = middle := congrArg Outcome.state hbefore
    exact ⟨[], (List.append_nil history).symm ▸ h⟩
  | append_singleton before statement ih =>
    obtain ⟨reached, hreached, hlast⟩ := executeAll_concat_done hbefore
    have hentered : setup.Enters journal stage (before ++ (statement :: after)) state := by
      simpa using henters
    obtain ⟨first, hfirst⟩ := ih hentered hreached
    cases hcallee : statement.callee? with
    | none =>
      obtain ⟨second, hsecond⟩ := hfirst.execute hcallee
      rw [hlast] at hsecond
      exact ⟨first ++ second, List.append_assoc history first second ▸ hsecond⟩
    | some function =>
      -- the call has joined the queue at the point behind the statement
      have hnoted : setup.Retells label journal (reached.note (.executed statement))
          (history ++ first ++ [.executed statement]) := hfirst.note rfl rfl
      have hpoint := Point.within henters hbefore
      rw [Statement.execute_call hcallee] at hlast
      obtain rfl := congrArg Outcome.state hlast
      have hjoined := hnoted.enqueue ⟨function, reached.bindings⟩ hpoint
      rw [List.append_assoc, List.append_assoc] at hjoined
      exact ⟨_, hjoined⟩

/-- A body that a run carries out, whether it fails or not. -/
theorem body {stage : Nat} {body : List Statement}
    (h : setup.Retells label journal state history)
    (henters : setup.Enters journal stage body state) :
    ∃ later : History,
      setup.Retells label journal (executeAll body state).state (history ++ later) := by
  cases hfails : (executeAll body state).failure with
  | none =>
    rw [← List.append_nil body] at henters
    exact h.within henters (Outcome.eq_done hfails)
  | some failure =>
    obtain ⟨statement, @⟨before, after, middle, rfl, hbefore, hstops⟩⟩ :=
      executeAll_failure_iff.1 hfails
    obtain ⟨first, hfirst⟩ := h.within henters hbefore
    -- a `call` does not fail
    have hcallee : statement.callee? = none := by
      cases hcallee : statement.callee? with
      | none => rfl
      | some function =>
        rw [Statement.execute_call hcallee] at hstops
        cases hstops
    obtain ⟨second, hsecond⟩ := hfirst.execute hcallee
    rw [executeAll_append hbefore, executeAll_cons_stopped hstops]
    exact ⟨first ++ second, List.append_assoc history first second ▸ hsecond⟩

/-- What comes of a dispatch. -/
theorem afterDispatch {outcome : Outcome} (h : setup.Retells label journal outcome.state history) :
    ∃ later : History,
      setup.Retells label journal (Run.afterDispatch outcome).state (history ++ later) := by
  rcases Run.state_afterDispatch outcome with hstate | hstate
  · exact ⟨[], by rw [hstate, List.append_nil]; exact h⟩
  · exact ⟨_, hstate ▸ h.move .failed⟩

end Retells

section Runs

variable {α : Type} [DecidableEq α] {setup : Setup} {label : PendingCall → α}
  {journal : Array Event} {state : State} {history : History}

/-- The start of a run. -/
theorem retells_start (setup : Setup) (label : PendingCall → α) (journal : Array Event) :
    ∃ history : History,
      setup.Retells label journal (setup.start (.initial journal)).state history := by
  have hrunning := (Retells.new setup label journal).move .running
  obtain ⟨later, hentry⟩ : ∃ later : History, setup.Retells label journal
      (setup.runFunction entryName ((State.initial journal).move .running)).state
      ([] ++ [.moved (State.initial journal).phase .running] ++ later) := by
    cases hfind : setup.program.find? entryName with
    | none =>
      rw [runFunction, Program.function, hfind]
      exact ⟨[], hrunning⟩
    | some f =>
      have hentered : setup.Retells label journal
          (((State.initial journal).move .running).note (.entered entryName)) _ :=
        hrunning.note rfl rfl
      obtain ⟨later, hbody⟩ := hentered.body (.entry hfind)
      rw [runFunction_of_find? hfind]
      exact ⟨_, List.append_assoc _ _ later ▸ hbody⟩
  obtain ⟨phase, hphase⟩ := Run.state_afterEntry
    (setup.runFunction entryName ((State.initial journal).move .running))
  rw [setup.start_eq_afterEntry journal, hphase]
  exact ⟨_, hentry.move phase⟩

/-- A dispatch that is not refused. -/
theorem retells_dispatch {steps : Nat} {before after : Queue} {call : PendingCall}
    (hreach : setup.advance steps (setup.start (.initial journal)) = .draining state)
    (h : setup.Retells label journal state history) (hlabel : state.queue.ToldApart label)
    (hselects : state.Selects before call after)
    (hfree : setup.exhausted (state.taking before after) = false) :
    ∃ later : History, setup.Retells label journal
      (setup.dispatch call (state.taking before after)).state (history ++ later) := by
  have hbegun := h.begin hselects hlabel
  rw [dispatch_of_not_exhausted call hfree]
  cases hname : Intrinsic.ofName? call.function with
  | some intrinsic =>
    obtain ⟨later, hrecords, henqueued, -⟩ :=
      setup.runIntrinsic_records intrinsic call ((state.taking before after).opening call)
    have hcarried := hbegun.quiet hrecords henqueued
      (setup.runIntrinsic_carried intrinsic call _).dispatches
    exact ⟨_, List.append_assoc history _ later ▸ hcarried⟩
  | none =>
    simp only
    cases hfind : setup.program.find? call.function with
    | none =>
      rw [runFunction, Program.function, hfind]
      exact ⟨_, hbegun⟩
    | some f =>
      have hentered : setup.Retells label journal
          (((state.taking before after).opening call).note (.entered call.function)) _ :=
        hbegun.note rfl rfl
      obtain ⟨later, hbody⟩ := hentered.body (.call hreach hselects hfree hname hfind)
      rw [runFunction_of_find? hfind]
      exact ⟨_, by simpa using hbody⟩

/-- A step of draining, unless the dispatch limit refuses the call that it takes. -/
theorem retells_drain {steps : Nat}
    (hreach : setup.advance steps (setup.start (.initial journal)) = .draining state)
    (h : setup.Retells label journal state history) (hlabel : state.queue.ToldApart label)
    (hfree : ¬ (setup.drain state).Refused) :
    ∃ later : History,
      setup.Retells label journal (setup.drain state).state (history ++ later) := by
  -- a run that ends at its scan has recorded the calls passed over
  have hends : ∀ (skipped : Queue) (phase : Phase), ∃ later : History,
      setup.Retells label journal ((state.noteSkipped skipped).move phase) (history ++ later) := by
    intro skipped phase
    have hscanned := h.quiet (state.noteSkipped_records skipped)
      (History.quiet_skipped skipped).enqueued (state.dispatches_noteSkipped skipped)
    exact ⟨_, List.append_assoc history _ _ ▸ hscanned.move phase⟩
  have hstep := setup.drained state
  generalize setup.drain state = run at hstep hfree ⊢
  cases hstep with
  | halted hqueue => exact ⟨_, h.move .halted⟩
  | stuck hqueue hnone => exact hends state.queue .deadlocked
  | @faulty before after call fault hqueue hbefore hcall => exact hends before .failed
  | @dispatched before after call hqueue hbefore hcall =>
    have hselects : state.Selects before call after := ⟨hqueue, hbefore, hcall⟩
    cases hlimit : setup.exhausted (state.taking before after) with
    | true =>
      rw [dispatch_of_exhausted call hlimit] at hfree
      exact absurd (Run.refused_overLimit _ .failed setup.limit) hfree
    | false =>
      obtain ⟨first, hdispatch⟩ := retells_dispatch hreach h hlabel hselects hlimit
      obtain ⟨second, hafter⟩ := hdispatch.afterDispatch
      exact ⟨_, List.append_assoc history first second ▸ hafter⟩

/-- The journal retells every state that a run comes to, as long as nothing is refused. -/
theorem retells_advance
    (hlabel : ∀ steps state, setup.advance steps (setup.start (.initial journal)) =
      .draining state → state.queue.ToldApart label) (steps : Nat)
    (hfree : ¬ (setup.advance steps (setup.start (.initial journal))).Refused) :
    setup.Retells label journal (setup.advance steps (setup.start (.initial journal))).state
      ((setup.advance steps (setup.start (.initial journal))).state.since journal) := by
  suffices hretells : ∃ history : History, setup.Retells label journal
      (setup.advance steps (setup.start (.initial journal))).state history by
    obtain ⟨history, h⟩ := hretells
    rw [State.since_eq h.recorded]
    exact h
  induction steps with
  | zero => exact setup.retells_start label journal
  | succ steps ih =>
    rw [advance_succ_last] at hfree ⊢
    cases hreach : setup.advance steps (setup.start (.initial journal)) with
    | ended outcome =>
      rw [hreach] at ih hfree
      exact ih hfree
    | draining state =>
      rw [hreach] at ih hfree
      obtain ⟨history, h⟩ := ih id
      obtain ⟨later, hnext⟩ := retells_drain hreach h (hlabel steps state hreach) hfree
      exact ⟨_, hnext⟩

end Runs

end Setup

/-! ## What a step records of its scan -/

/-- Between two states no scan passed over a call. -/
def State.Follows (later earlier : State) : Prop :=
  ∃ history : History, later.journal = earlier.journal ++ history.toArray ∧ history.skipped = []

namespace State.Follows

/-- Nothing was recorded at all. -/
theorem of_nothing {later earlier : State} (h : later.Records earlier []) :
    later.Follows earlier :=
  ⟨[], h.journal, rfl⟩

theorem trans {later middle earlier : State} (hsecond : later.Follows middle)
    (hfirst : middle.Follows earlier) : later.Follows earlier := by
  obtain ⟨first, hfirst, hnone⟩ := hfirst
  obtain ⟨second, hsecond, hnone'⟩ := hsecond
  refine ⟨first ++ second, History.journal_append hfirst hsecond, ?_⟩
  rw [History.skipped_append, hnone, hnone']
  rfl

theorem note (state : State) {event : Event} (h : event.skipped? = none) :
    (state.note event).Follows state :=
  ⟨[event], by simp [State.note], by simp [History.skipped, h]⟩

theorem move (state : State) (phase : Phase) : (state.move phase).Follows state :=
  note { state with phase } rfl

theorem of_change {setup : Setup} {state next : State} (h : setup.Change state next) :
    next.Follows state := by
  cases h with
  | executed statement => exact note state rfl
  | entered name => exact note state rfl
  | intrinsic call => exact note state rfl
  | wrote store name value ready => exact note { state with store } rfl
  | stored store => exact of_nothing (.nothing rfl rfl)
  | bound bindings => exact of_nothing (.nothing rfl rfl)
  | enqueued call => exact note { state with queue := state.queue.enqueue call } rfl
  | emitted value => exact of_nothing (state.emit_records setup.listener value)
  | begun call hfree => exact note { state with dispatches := state.dispatches + 1 } rfl

/-- A dispatch scans nothing: the calls that its body makes only join the queue. -/
theorem dispatch (setup : Setup) (call : PendingCall) (state : State) :
    (setup.dispatch call state).state.Follows state := by
  refine (setup.dispatch_changes call state).relate ?_ ?_ of_change
  · exact fun state => of_nothing (.nothing rfl rfl)
  · exact fun hfirst hsecond => hsecond.trans hfirst

theorem afterDispatch (outcome : Outcome) :
    (Run.afterDispatch outcome).state.Follows outcome.state := by
  rcases Run.state_afterDispatch outcome with hstate | hstate
  · rw [hstate]
    exact of_nothing (.nothing rfl rfl)
  · rw [hstate]
    exact move outcome.state .failed

end State.Follows

/-- The calls ahead of the one at which a scan stops: the one it selects, or the one whose check
faults; all calls if it stops at none. -/
def State.passedOver (state : State) : Queue :=
  match state.queue.select state.store with
  | .ok (.runnable index _) => state.queue.take index
  | .ok _ => state.queue
  | .error _ => state.queue.takeWhile fun call => (call.eligible state.store).isOk

namespace State

variable {state : State} {before after : Queue} {call : PendingCall}

theorem Selects.passedOver_eq (h : state.Selects before call after) :
    state.passedOver = before := by
  rw [passedOver, h.select_eq, h.queue]
  exact List.take_left

/-- The first call whose check faults has ineligible calls ahead of it, which were checked. -/
theorem passedOver_of_fault {fault : Fault} (hqueue : state.queue = before ++ call :: after)
    (hbefore : ∀ other ∈ before, other.eligible state.store = .ok false)
    (hcall : call.eligible state.store = .error fault) : state.passedOver = before := by
  have hselect : state.queue.select state.store = .error fault := by
    rw [Queue.select, hqueue, Queue.survey_append hbefore (by simp [hcall]), hcall]
    rfl
  have hchecked : ∀ other ∈ before, (other.eligible state.store).isOk = true := by
    intro other hother
    rw [hbefore other hother]
    rfl
  have hstops : ¬ (call.eligible state.store).isOk = true := by
    rw [hcall]
    exact Bool.false_ne_true
  rw [passedOver, hselect]
  simp only
  rw [hqueue, List.takeWhile_append_of_pos hchecked, List.takeWhile_cons, if_neg hstops,
    List.append_nil]

end State

namespace Setup

/-- A step records the calls that its scan passed over, in their order, before anything else. -/
theorem drain_passedOver (setup : Setup) (state : State) :
    ∃ rest : History, rest.skipped = [] ∧
      (setup.drain state).state.since state.journal =
        state.passedOver.map Event.skipped ++ rest := by
  suffices hscan : ∃ scanned : State, (setup.drain state).state.Follows scanned ∧
      scanned.journal = state.journal ++ (state.passedOver.map Event.skipped).toArray by
    obtain ⟨scanned, ⟨rest, hrest, hnone⟩, hscanned⟩ := hscan
    exact ⟨rest, hnone, State.since_eq (History.journal_append hscanned hrest)⟩
  have hstep := setup.drained state
  generalize setup.drain state = run at hstep ⊢
  cases hstep with
  | halted hqueue =>
    have hpassed : state.passedOver = [] := by
      rw [State.passedOver, hqueue]
      rfl
    exact ⟨state, .move state .halted, by simp [hpassed]⟩
  | stuck hqueue hnone =>
    have hpassed : state.passedOver = state.queue := by
      rw [State.passedOver, Queue.select, Queue.survey_of_ineligible hqueue hnone]
    exact ⟨_, .move (state.noteSkipped state.queue) .deadlocked,
      by rw [hpassed, State.noteSkipped_eq]⟩
  | @faulty before after call fault hqueue hbefore hcall =>
    have hpassed := State.passedOver_of_fault hqueue hbefore hcall
    exact ⟨_, .move (state.noteSkipped before) .failed, by rw [hpassed, State.noteSkipped_eq]⟩
  | @dispatched before after call hqueue hbefore hcall =>
    have hselects : state.Selects before call after := ⟨hqueue, hbefore, hcall⟩
    refine ⟨state.taking before after, ?_, by rw [hselects.passedOver_eq, State.taking_eq]⟩
    exact (State.Follows.afterDispatch _).trans (.dispatch setup call _)

/-- The texts of the calls that a run of a parsed program queues tell them apart. -/
theorem toldApart_describe {setup : Setup} {skipBlank : Bool} {lines : List String}
    (hread : setup.program.ReadFrom skipBlank lines) {journal : Array Event} {steps : Nat}
    {state : State}
    (hreach : setup.advance steps (setup.start (.initial journal)) = .draining state) :
    state.queue.ToldApart PendingCall.describe := by
  have hprogram := Program.wellFormed_of_parse hread.parse_eq
  have hstate := wellFormed_advance hprogram journal steps
  rw [hreach] at hstate
  intro first hfirst second hsecond htext
  exact PendingCall.describe_inj (hstate.queue first hfirst).unspaced
    (hstate.queue second hsecond).unspaced htext

/-- The journal of a run of a new machine is a faithful account of it. At every scheduling point,
and at the end unless a call was refused, replaying it gives the queue, the dispatches are numbered
from 1 to their number, and each call that joined the queue is recorded with the length that the
queue then had; for a parsed program the texts of the calls are enough. Each step records exactly
the calls that its scan passed over, in their order. -/
theorem journal_retells_run (setup : Setup) (journal : Array Event) :
    (∀ steps, ¬ (setup.advance steps (setup.start (.initial journal))).Refused →
      setup.Retells id journal (setup.advance steps (setup.start (.initial journal))).state
        ((setup.advance steps (setup.start (.initial journal))).state.since journal)) ∧
    (∀ skipBlank lines, setup.program.ReadFrom skipBlank lines →
      ∀ steps, ¬ (setup.advance steps (setup.start (.initial journal))).Refused →
        setup.Retells PendingCall.describe journal
          (setup.advance steps (setup.start (.initial journal))).state
          ((setup.advance steps (setup.start (.initial journal))).state.since journal)) ∧
    (∀ steps state, setup.advance steps (setup.start (.initial journal)) = .draining state →
      ∃ rest : History, rest.skipped = [] ∧
        (setup.drain state).state.since state.journal =
          state.passedOver.map Event.skipped ++ rest) := by
  refine ⟨?_, ?_, ?_⟩
  · exact retells_advance fun _ _ _ first _ second _ hsame => hsame
  · intro skipBlank lines hread
    exact retells_advance fun _ _ hreach => toldApart_describe hread hreach
  · intro steps state _
    exact setup.drain_passedOver state

/-- The lines of a program that queues the same print twice before the function that assigns the
variable, and once more behind it. -/
def repeatedPrints : List String :=
  ["- _entry", "var a int", "bind in a", "call print", "bind in a", "call print", "call fill",
    "---", "- fill", "assg a 7", "bind in a", "call print", "---"]

/-- The first scan passes over both prints, and two dispatches later the texts in the journal tell
that two prints are left. -/
theorem journal_retells_run_repeated_prints :
    ∃ setup : Setup, setup.program.ReadFrom false repeatedPrints ∧
      (∃ state, ∃ rest : History,
        setup.advance 0 (setup.start (.initial #[])) = .draining state ∧ rest.skipped = [] ∧
        (setup.drain state).state.since state.journal =
          List.replicate 2 (.skipped ⟨"print", [⟨"a", .input⟩]⟩) ++ rest) ∧
      ∃ state, setup.advance 2 (setup.start (.initial #[])) = .draining state ∧
        (state.since #[]).replay PendingCall.describe = some ["print(in a)", "print(in a)"] ∧
        (state.since #[]).numbers = [1, 2] := by
  obtain ⟨setup, hparse, ⟨first, hfirst, hpassed⟩, second, hsecond, htexts, hcount⟩ :
      ∃ setup : Setup, Program.parse false repeatedPrints = .ok setup.program ∧
        (∃ state, setup.advance 0 (setup.start (.initial #[])) = .draining state ∧
          state.passedOver = List.replicate 2 ⟨"print", [⟨"a", .input⟩]⟩) ∧
        ∃ state, setup.advance 2 (setup.start (.initial #[])) = .draining state ∧
          state.queue.map PendingCall.describe = ["print(in a)", "print(in a)"] ∧
          state.dispatches = 2 :=
    ⟨⟨_, 0, none⟩, rfl, ⟨_, rfl, rfl⟩, _, rfl, by decide, rfl⟩
  have hread : setup.program.ReadFrom false repeatedPrints := .lines hparse
  obtain ⟨-, htold, hscans⟩ := setup.journal_retells_run #[]
  obtain ⟨rest, hnone, hsince⟩ := hscans 0 first hfirst
  rw [hpassed] at hsince
  have hretells := htold false repeatedPrints hread 2 (by rw [hsecond]; exact id)
  rw [hsecond] at hretells
  refine ⟨setup, hread, ⟨first, rest, hfirst, hnone, hsince⟩, second, hsecond, ?_, ?_⟩
  · rw [← htexts]
    exact hretells.queue
  · have hnumbers := hretells.numbers
    simp only [Run.state, hcount] at hnumbers
    exact hnumbers

end Setup

end Dataflow
