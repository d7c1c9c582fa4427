import Mathlib.Data.List.InsertIdx
import Dataflow.Proofs.Accounting

/-!
# The order of dispatches

Calls are numbered in the order in which they are enqueued. `Setup.tickets` keeps the numbers of the
queued calls along a run, and they increase from the front of the queue to its back
(`State.Ticketed.pairwise_lt`). Since a scan takes the first eligible call, a call that is
dispatched overtakes ineligible calls only. This is said of one store at a time: a call that was
passed over may have been eligible before, as variables can lose their readiness between two scans.

Main statement: `dispatch_overtakes_ineligible`.
-/

set_option autoImplicit false

namespace Dataflow

/-! ## Tickets -/

/-- A queued call and its number among the calls enqueued. -/
abbrev Ticket := PendingCall × Nat

/-- Each queued call has a ticket, and the tickets are in the order in which they were given out. -/
structure State.Ticketed (state : State) (history : History) (tickets : List Ticket) : Prop where
  queue : tickets.map Prod.fst = state.queue
  given : tickets.Sublist history.enqueued.zipIdx

namespace State.Ticketed

variable {state next : State} {history later : History} {tickets : List Ticket}

/-- The numbers increase from the front of the queue to its back. -/
theorem pairwise_lt (h : state.Ticketed history tickets) :
    tickets.Pairwise fun first second => first.2 < second.2 := by
  -- numbers are given out in increasing order, and tickets are only ever taken out
  refine List.Pairwise.sublist h.given (List.pairwise_map.1 ?_)
  rw [List.zipIdx_map_snd]
  exact List.pairwise_lt_range'

/-- A call with a lower number stands further to the front. -/
theorem lt_of_number_lt (h : state.Ticketed history tickets) {index other : Nat}
    {first second : Ticket} (hfirst : tickets[index]? = some first)
    (hsecond : tickets[other]? = some second) (hlt : first.2 < second.2) : index < other := by
  obtain ⟨hindex, rfl⟩ := List.getElem?_eq_some_iff.1 hfirst
  obtain ⟨hother, rfl⟩ := List.getElem?_eq_some_iff.1 hsecond
  have hordered := List.pairwise_iff_getElem.1 h.pairwise_lt
  rcases Nat.lt_trichotomy index other with hbefore | rfl | hbehind
  · exact hbefore
  · exact absurd hlt (Nat.lt_irrefl _)
  · exact absurd (hordered other index hother hindex hbehind) (Nat.lt_asymm hlt)

/-- Nothing is taken and nothing is enqueued. -/
theorem idle (h : state.Ticketed history tickets) (hqueue : next.queue = state.queue)
    (hquiet : later.Quiet) : next.Ticketed (history ++ later) tickets where
  queue := by rw [h.queue, hqueue]
  given := by
    rw [History.enqueued_append, hquiet.enqueued, List.append_nil]
    exact h.given

/-- A call is taken and calls are enqueued. -/
theorem taken (h : state.Ticketed history tickets) {index : Nat}
    (hqueue : next.queue = state.queue.eraseIdx index ++ later.enqueued) :
    next.Ticketed (history ++ later)
      (tickets.eraseIdx index ++ later.enqueued.zipIdx history.enqueued.length) where
  queue := by
    rw [List.map_append, ← List.eraseIdx_map, h.queue, List.zipIdx_map_fst, hqueue]
  given := by
    rw [History.enqueued_append, List.zipIdx_append, Nat.zero_add]
    exact ((List.eraseIdx_sublist tickets index).trans h.given).append (List.Sublist.refl _)

end State.Ticketed

namespace Setup

/-- What a step does to the tickets: that of the selected call is taken, and the calls that are
enqueued are given the next numbers. -/
def renumber (setup : Setup) (journal : Array Event) (tickets : List Ticket) : Run → List Ticket
  | .ended _ => tickets
  | .draining state =>
    match state.queue.select state.store with
    | .ok (.runnable index _) =>
      tickets.eraseIdx index ++
        ((setup.drain state).state.since state.journal).enqueued.zipIdx
          (state.since journal).enqueued.length
    | _ => tickets

/-- The tickets of the calls that are queued after some steps. -/
def tickets (setup : Setup) (journal : Array Event) : Nat → List Ticket
  | 0 => ((setup.start (.initial journal)).state.since journal).enqueued.zipIdx
  | steps + 1 =>
    setup.renumber journal (setup.tickets journal steps)
      (setup.advance steps (setup.start (.initial journal)))

/-- A scan that selects nothing takes no ticket. -/
theorem renumber_of_idle (setup : Setup) (journal : Array Event) (tickets : List Ticket)
    {state : State}
    (h : ∀ index call, state.queue.select state.store ≠ .ok (.runnable index call)) :
    setup.renumber journal tickets (.draining state) = tickets := by
  rw [renumber]
  split
  · next index call hselect => exact absurd hselect (h index call)
  · rfl

/-- One step of draining keeps the tickets those of the queue. -/
theorem ticketed_drain (setup : Setup) {journal : Array Event} {state : State} {history : History}
    {tickets : List Ticket} (hjournal : state.journal = journal ++ history.toArray)
    (h : state.Ticketed history tickets) :
    ∃ later : History, (setup.drain state).state.journal = state.journal ++ later.toArray ∧
      (setup.drain state).state.Ticketed (history ++ later)
        (setup.renumber journal tickets (.draining state)) := by
  obtain ⟨later, hlater, hbooked⟩ := setup.booked_drain state
  refine ⟨later, hlater, ?_⟩
  -- whether the call is refused or begun, its ticket is taken where the scan found it
  have htaken : ∀ {before after : Queue} {call : PendingCall},
      state.Selects before call after →
      setup.renumber journal tickets (.draining state) =
        tickets.eraseIdx before.length ++ later.enqueued.zipIdx history.enqueued.length := by
    intro before after call hselects
    simp only [renumber, hselects.select_eq, State.since_eq hlater, State.since_eq hjournal]
  cases hbooked with
  | idle hselect hqueue hdispatches hquiet hfree =>
    rw [setup.renumber_of_idle journal tickets hselect]
    exact h.idle hqueue hquiet
  | refused hselects hqueue hdispatches hquiet hend =>
    rw [htaken hselects]
    apply h.taken
    rw [hselects.eraseIdx_eq, hquiet.enqueued, List.append_nil, hqueue]
  | begun hselects hqueue hdispatches hbegun hcalled hfree =>
    rw [htaken hselects]
    apply h.taken
    rw [hselects.eraseIdx_eq, hqueue]

/-- After any number of steps the tickets are those of the queue. -/
theorem ticketed_advance (setup : Setup) (journal : Array Event) (steps : Nat) :
    ∃ history : History,
      (setup.advance steps (setup.start (.initial journal))).state.journal =
        journal ++ history.toArray ∧
      (setup.advance steps (setup.start (.initial journal))).state.Ticketed history
        (setup.tickets journal steps) := by
  induction steps with
  | zero =>
    obtain ⟨history, hrecords, -, -⟩ := setup.start_records journal
    have hsince : (setup.start (.initial journal)).state.since journal = history :=
      State.since_eq hrecords.journal
    have htickets : setup.tickets journal 0 = history.enqueued.zipIdx := by
      rw [tickets, hsince]
    refine ⟨history, hrecords.journal, ?_, ?_⟩
    · rw [htickets, List.zipIdx_map_fst]
      exact hrecords.queue.symm
    · exact htickets ▸ List.Sublist.refl _
  | succ steps ih =>
    rw [advance_succ_last, tickets]
    cases hreach : setup.advance steps (setup.start (.initial journal)) with
    | ended outcome =>
      rw [hreach] at ih
      exact ih
    | draining state =>
      rw [hreach] at ih
      obtain ⟨history, hjournal, hticketed⟩ := ih
      obtain ⟨later, hlater, hnext⟩ := setup.ticketed_drain hjournal hticketed
      exact ⟨history ++ later, History.journal_append hjournal hlater, hnext⟩

end Setup

/-! ## Dispatches -/

/-- A dispatch of the call that stands at a place of the queue and bears a number keeps to the order
of the queue. -/
structure State.InOrder (state next : State) (tickets : List Ticket) (index number : Nat)
    (call : PendingCall) : Prop where
  selected : state.queue.select state.store = .ok (.runnable index call)
  ticket : tickets[index]? = some (call, number)
  /-- What the call is bound to exists and is not reserved, and its inputs are ready. -/
  ready : ∀ b ∈ call.bindings, ∃ v, state.store.find? b.name = some v ∧ v.bound = false ∧
    (b.direction = .input → v.ready = true)
  /-- The calls in front of it in the queue are ineligible. -/
  ahead : ∀ place other, place < index → state.queue[place]? = some other →
    other.eligible state.store = .ok false
  /-- The calls enqueued before it that are still queued are ineligible. -/
  earlier : ∀ other ∈ tickets, other.2 < number → other.1.eligible state.store = .ok false
  /-- The other calls stay in their order, and those it enqueues come behind them. -/
  queue : next.queue = state.queue.eraseIdx index ++ (next.since state.journal).enqueued
  /-- The calls it enqueues are in the order of the `call` statements it carried out. -/
  enqueued : (next.since state.journal).enqueued.map PendingCall.function =
    (next.since state.journal).called

namespace Setup

/-- A call is dispatched only when it is eligible and every call enqueued before it that is still
queued is not; the calls that are left keep their order, and those that it enqueues come behind
them. -/
theorem dispatch_overtakes_ineligible (setup : Setup) (journal : Array Event) {steps : Nat}
    {state : State} {call : PendingCall}
    (hreach : setup.advance steps (setup.start (.initial journal)) = .draining state)
    (hbegun : call ∈ ((setup.drain state).state.since state.journal).begun) :
    state.Ticketed (state.since journal) (setup.tickets journal steps) ∧
      ∃ index number,
        state.InOrder (setup.drain state).state (setup.tickets journal steps) index number
          call := by
  obtain ⟨history, hjournal, hticketed⟩ := setup.ticketed_advance journal steps
  rw [hreach] at hjournal hticketed
  have hsince : state.since journal = history := State.since_eq hjournal
  rw [hsince]
  refine ⟨hticketed, ?_⟩
  obtain ⟨later, hlater, hbooked⟩ := setup.booked_drain state
  rw [State.since_eq hlater] at hbegun
  cases hbooked with
  | idle hselect hqueue hdispatches hquiet hfree =>
    rw [hquiet.begun] at hbegun
    exact absurd hbegun List.not_mem_nil
  | refused hselects hqueue hdispatches hquiet hend =>
    rw [hquiet.begun] at hbegun
    exact absurd hbegun List.not_mem_nil
  | @begun before after selected hselects hqueue hdispatches hselected hcalled hfree =>
    rw [hselected] at hbegun
    obtain rfl := List.mem_singleton.1 hbegun
    -- the call has a ticket because the queue has it at its place
    have hplace : ((setup.tickets journal steps).map Prod.fst)[before.length]? = some call := by
      rw [hticketed.queue]
      simp only [Run.state, hselects.queue, List.getElem?_append_right (Nat.le_refl _),
        Nat.sub_self, List.getElem?_cons_zero]
    rw [List.getElem?_map] at hplace
    obtain ⟨⟨_, number⟩, hticket, rfl⟩ := Option.map_eq_some_iff.1 hplace
    refine ⟨before.length, number, hselects.select_eq, hticket,
      eligibleBindings_eq_ok_true_iff.1 hselects.eligible,
      fun place other => hselects.ineligible_of_lt, ?_, ?_, ?_⟩
    · -- a lower number stands further to the front, where the scan found no eligible call
      intro other hother hlt
      obtain ⟨place, hother⟩ := List.getElem?_of_mem hother
      have hfront := hticketed.lt_of_number_lt hother hticket hlt
      refine hselects.ineligible_of_lt hfront ?_
      have hqueued : state.queue[place]? = ((setup.tickets journal steps).map Prod.fst)[place]? :=
        congrArg (·[place]?) hticketed.queue.symm
      rw [hqueued, List.getElem?_map, hother]
      rfl
    · rw [State.since_eq hlater, hselects.eraseIdx_eq]
      exact hqueue
    · rw [State.since_eq hlater]
      exact hcalled

/-- The entry function queues a print of a variable, and behind it a function that assigns the
variable and queues another print. -/
def lateAssignment : Setup :=
  let entry : List Instruction :=
    [.declare "a" "int", .bind ⟨"a", .input⟩, .call "print", .call "fill"]
  let fill : List Instruction := [.assign "a" "7", .bind ⟨"a", .input⟩, .call "print"]
  let place (body : List Instruction) : List Statement :=
    body.map fun instruction => ⟨instruction, "", 0⟩
  ⟨⟨[⟨entryName, [], place entry, 1⟩, ⟨"fill", [], place fill, 6⟩]⟩, 0, none⟩

/-- The function overtakes the print, which cannot run before the variable is assigned. -/
theorem dispatch_overtakes_ineligible_late_assignment :
    ∃ state, lateAssignment.advance 0 (lateAssignment.start (.initial #[])) = .draining state ∧
      PendingCall.eligible ⟨"print", [⟨"a", .input⟩]⟩ state.store = .ok false ∧
      state.queue.select state.store = .ok (.runnable 1 ⟨"fill", []⟩) := by
  obtain ⟨state, hreach, hbegun⟩ : ∃ state,
      lateAssignment.advance 0 (lateAssignment.start (.initial #[])) = .draining state ∧
        ⟨"fill", []⟩ ∈ ((lateAssignment.drain state).state.since state.journal).begun :=
    ⟨_, rfl, by decide⟩
  obtain ⟨-, index, number, horder⟩ :=
    lateAssignment.dispatch_overtakes_ineligible #[] hreach hbegun
  have htickets : lateAssignment.tickets #[] 0 =
      [(⟨"print", [⟨"a", .input⟩]⟩, 0), (⟨"fill", []⟩, 1)] := rfl
  have hticket := horder.ticket
  rw [htickets] at hticket
  obtain ⟨rfl, rfl⟩ : index = 1 ∧ number = 1 := by
    rcases index with _ | _ | index
    · simp at hticket
    · simpa [eq_comm] using hticket
    · simp at hticket
  refine ⟨state, hreach, ?_, horder.selected⟩
  exact horder.earlier (⟨"print", [⟨"a", .input⟩]⟩, 0) (by rw [htickets]; simp) (by decide)

end Setup

end Dataflow
