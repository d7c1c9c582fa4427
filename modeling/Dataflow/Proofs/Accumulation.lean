import Mathlib.Data.List.DropRight
import Dataflow.Proofs.DispatchOrder
import Dataflow.Proofs.Stages

/-!
# How calls come by their bindings

All functions of a program share one list of bindings: a `bind` appends to it, and a `call` takes
what is there, whichever function the two stand in. `Trace.Assembles` says what calls and what open
bindings a sequence of statements comes to, and looks at the sequence only. `Setup.performed` is the
sequence of the statements that a run has completed, one body after the other, and `Setup.Point`
lists the points of a run: between two statements of a body, and before, between and after the
steps. At each of them the calls enqueued and the open bindings are those that the completed
statements come to (`Setup.gathers_point`).

Main statement: `calls_gather_bindings`.
-/

set_option autoImplicit false

namespace Dataflow

/-! ## Traces -/

/-- The binding that an instruction makes. -/
def Instruction.binding? : Instruction → Option Binding
  | .bind b => some b
  | _ => none

/-- The binding that a statement makes. -/
def Statement.binding? (statement : Statement) : Option Binding :=
  statement.instruction.binding?

theorem Instruction.callee?_eq_some_iff {instruction : Instruction} {function : String} :
    instruction.callee? = some function ↔ instruction = .call function := by
  cases instruction with
  | call other => simp [Instruction.callee?]
  | declare | assign | bind | copy | delete => simp [Instruction.callee?]

/-- Statements in the order in which they were completed. -/
abbrev Trace := List Statement

namespace Trace

/-- The functions that are called. -/
def callees (trace : Trace) : List String := trace.filterMap Statement.callee?

/-- The bindings that are made. -/
def bindings (trace : Trace) : List Binding := trace.filterMap Statement.binding?

/-- The bindings that are made behind the last `call`. -/
def openBindings (trace : Trace) : List Binding :=
  bindings (trace.rtakeWhile fun statement => statement.callee?.isNone)

/-- What a trace comes to: the calls it makes, and the bindings that are open at its end. -/
structure Assembles (trace : Trace) (calls : List PendingCall) (bound : List Binding) : Prop where
  /-- There is one call for each `call`. -/
  count : calls.length = trace.callees.length
  /-- A call of a given number is made by the `call` of that number, which names its function, and
  its bindings are those made between the `call` before and this one. -/
  made : ∀ (number : Nat) (call : PendingCall), calls[number]? = some call →
    ∃ (before : Trace) (statement : Statement) (after : Trace),
      trace = before ++ statement :: after ∧ before.callees.length = number ∧
      statement.callee? = some call.function ∧ call.bindings = before.openBindings
  /-- The open bindings are those made behind the last `call`. -/
  pending : bound = trace.openBindings
  /-- Each binding went into one call or is open, and all are in the order in which they were
  made. -/
  complete : calls.flatMap PendingCall.bindings ++ bound = trace.bindings

section Assembles

variable {trace : Trace} {statement : Statement} {calls : List PendingCall} {bound : List Binding}

theorem callees_concat (trace : Trace) (statement : Statement) :
    callees (trace ++ [statement]) = callees trace ++ statement.callee?.toList := by
  rw [callees, List.filterMap_append, ← callees]
  cases hcallee : statement.callee? with
  | none => rw [List.filterMap_cons_none hcallee]; rfl
  | some function => rw [List.filterMap_cons_some hcallee]; rfl

theorem bindings_concat (trace : Trace) (statement : Statement) :
    bindings (trace ++ [statement]) = bindings trace ++ statement.binding?.toList := by
  rw [bindings, List.filterMap_append, ← bindings]
  cases hbinding : statement.binding? with
  | none => rw [List.filterMap_cons_none hbinding]; rfl
  | some b => rw [List.filterMap_cons_some hbinding]; rfl

/-- A `call` leaves no binding open. -/
theorem openBindings_concat_call {function : String} (h : statement.callee? = some function) :
    openBindings (trace ++ [statement]) = [] := by
  rw [openBindings, List.rtakeWhile_concat_neg _ _ _ (by simp [h])]
  rfl

/-- Any other statement leaves them open, with the one that it makes. -/
theorem openBindings_concat (h : statement.callee? = none) :
    openBindings (trace ++ [statement]) = openBindings trace ++ statement.binding?.toList := by
  rw [openBindings, List.rtakeWhile_concat_pos _ _ _ (by simp [h]), bindings_concat, openBindings]

/-- Calls and bindings are made by different statements. -/
theorem binding?_eq_none {function : String} (h : statement.callee? = some function) :
    statement.binding? = none := by
  rw [Statement.binding?, Instruction.callee?_eq_some_iff.1 h]
  rfl

theorem assembles_nil : Assembles [] [] [] where
  count := rfl
  made := by simp
  pending := rfl
  complete := rfl

/-- The calls made so far stay as they are, whatever comes next. -/
theorem Assembles.made_concat (h : trace.Assembles calls bound) (statement : Statement)
    {number : Nat} {call : PendingCall} (hcall : calls[number]? = some call) :
    ∃ (before : Trace) (maker : Statement) (after : Trace),
      trace ++ [statement] = before ++ maker :: after ∧ before.callees.length = number ∧
      maker.callee? = some call.function ∧ call.bindings = before.openBindings := by
  obtain ⟨before, maker, after, rfl, hmaker⟩ := h.made number call hcall
  exact ⟨before, maker, after ++ [statement], by simp, hmaker⟩

/-- A `call` makes a call out of the open bindings. -/
theorem Assembles.call (h : trace.Assembles calls bound) {function : String}
    (hcallee : statement.callee? = some function) :
    (trace ++ [statement]).Assembles (calls ++ [⟨function, bound⟩]) [] where
  count := by
    rw [callees_concat, hcallee, List.length_append, h.count, List.length_append]
    rfl
  made := by
    intro number call hcall
    rcases Nat.lt_or_ge number calls.length with hlt | hge
    · rw [List.getElem?_append_left hlt] at hcall
      exact h.made_concat statement hcall
    · -- the new call is the last one, and everything made so far stands in front of it
      rw [List.getElem?_append_right hge, List.getElem?_singleton] at hcall
      obtain ⟨hzero, hcall⟩ := Option.ite_none_right_eq_some.1 hcall
      obtain rfl := Option.some.inj hcall
      refine ⟨trace, statement, [], rfl, ?_, hcallee, h.pending⟩
      have hcount := h.count
      omega
  pending := (openBindings_concat_call hcallee).symm
  complete := by
    rw [bindings_concat, binding?_eq_none hcallee, List.flatMap_append, ← h.complete]
    simp

/-- Any other statement makes no call, and may add to the open bindings. -/
theorem Assembles.other (h : trace.Assembles calls bound) (hcallee : statement.callee? = none) :
    (trace ++ [statement]).Assembles calls (bound ++ statement.binding?.toList) where
  count := by
    rw [callees_concat, hcallee, h.count]
    simp
  made _ _ hcall := h.made_concat statement hcall
  pending := by rw [openBindings_concat hcallee, h.pending]
  complete := by rw [bindings_concat, ← h.complete, List.append_assoc]

end Assembles

end Trace

/-! ## Statements -/

/-- The statements of a body that are completed before the first failure. -/
def completed : List Statement → State → Trace
  | [], _ => []
  | statement :: rest, state =>
    match statement.execute state with
    | ⟨next, none⟩ => statement :: completed rest next
    | ⟨_, some _⟩ => []

section Completed

variable {statement : Statement} {rest : List Statement} {state next : State} {failure : Failure}

theorem completed_cons_done (h : statement.execute state = .done next) :
    completed (statement :: rest) state = statement :: completed rest next := by
  rw [completed, h]
  rfl

theorem completed_cons_stopped (h : (statement.execute state).failure = some failure) :
    completed (statement :: rest) state = [] := by
  rw [completed]
  split
  · next done hdone =>
    rw [hdone] at h
    cases h
  · rfl

/-- Statements that are complete are all completed. -/
theorem completed_of_done {body : List Statement} (h : executeAll body state = .done next) :
    completed body state = body := by
  induction body generalizing state with
  | nil => rfl
  | cons first rest ih =>
    cases hfirst : (first.execute state).failure with
    | some failure =>
      rw [executeAll_cons_stopped hfirst] at h
      rw [h] at hfirst
      cases hfirst
    | none =>
      have hdone := Outcome.eq_done hfirst
      rw [executeAll_cons_done hdone] at h
      rw [completed_cons_done hdone, ih h]

end Completed

theorem State.write_bindings (state : State) (name : String) (value : Value) (ready : Bool) :
    (state.write name value ready).state.bindings = state.bindings := by
  rw [State.write]
  cases state.store.write name value ready with
  | ok store => rfl
  | error fault => rfl

theorem State.updateStore_bindings (state : State) (result : Except Fault Store) :
    (state.updateStore result).state.bindings = state.bindings := by
  cases result with
  | ok store => rfl
  | error fault => rfl

/-- An instruction that makes no call adds to the open bindings if it is a `bind`, and leaves them
alone otherwise. -/
theorem Instruction.perform_bindings {instruction : Instruction}
    (h : instruction.callee? = none) (state : State) :
    (instruction.perform state).state.bindings =
      state.bindings ++ instruction.binding?.toList := by
  cases instruction with
  | declare name type => exact (state.updateStore_bindings _).trans (List.append_nil _).symm
  | assign name literal => exact (state.write_bindings _ _ _).trans (List.append_nil _).symm
  | bind b => rfl
  | call function => cases h
  | copy target source =>
    rw [Instruction.perform]
    cases state.store.get source with
    | ok v => exact (state.write_bindings _ _ _).trans (List.append_nil _).symm
    | error fault => exact (List.append_nil _).symm
  | delete name => exact (state.updateStore_bindings _).trans (List.append_nil _).symm

/-- An instruction that fails is neither a `bind` nor a `call`. -/
theorem Instruction.unbound_of_failure {instruction : Instruction} {state : State}
    {failure : Failure} (h : (instruction.perform state).failure = some failure) :
    instruction.callee? = none ∧ instruction.binding? = none := by
  cases instruction with
  | bind b => cases h
  | call function => cases h
  | declare name type => exact ⟨rfl, rfl⟩
  | assign name literal => exact ⟨rfl, rfl⟩
  | copy target source => exact ⟨rfl, rfl⟩
  | delete name => exact ⟨rfl, rfl⟩

/-- A statement that calls a function enqueues a call with the open bindings. -/
theorem Statement.execute_call {statement : Statement} {function : String}
    (h : statement.callee? = some function) (state : State) :
    statement.execute state =
      .done { (state.note (.executed statement)).enqueue ⟨function, state.bindings⟩ with
        bindings := [] } := by
  rw [Statement.execute, Instruction.callee?_eq_some_iff.1 h]
  rfl

/-- What a statement that makes no call records is not about the queue. -/
theorem Statement.execute_records_of_not_call {statement : Statement} (h : statement.callee? = none)
    (state : State) :
    ∃ later : History, (statement.execute state).state.Records state later ∧
      later.enqueued = [] := by
  obtain ⟨later, hrecords, -, hfunctions⟩ := statement.execute_records state
  rw [h] at hfunctions
  exact ⟨later, hrecords, List.map_eq_nil_iff.1 hfunctions⟩

/-- Calls of intrinsic functions leave the open bindings alone. -/
theorem Setup.runIntrinsic_bindings (setup : Setup) (intrinsic : Intrinsic) (call : PendingCall)
    (state : State) :
    (setup.runIntrinsic intrinsic call state).state.bindings = state.bindings := by
  cases intrinsic with
  | add =>
    rw [runIntrinsic, State.runAdd]
    split
    · split
      · exact State.write_bindings _ _ _ _
      · rfl
    · rfl
  | print =>
    rw [runIntrinsic, State.runPrint]
    split
    · split
      · next value hread =>
        cases hlistener : setup.listener with
        | none => rfl
        | some listener =>
          simp only [State.emit]
          split
          · rfl
          · rfl
      · rfl
    · rfl

/-! ## States -/

/-- A state has gathered what a trace comes to: the calls in its history are those of the trace, the
open bindings are its own, and what is queued is among the calls. -/
structure State.Gathers (state : State) (journal : Array Event) (history : History)
    (trace : Trace) : Prop where
  journal : state.journal = journal ++ history.toArray
  assembles : trace.Assembles history.enqueued state.bindings
  queue : state.queue.Sublist history.enqueued

/-- A new machine has gathered nothing. -/
theorem State.gathers_initial (journal : Array Event) :
    (State.initial journal).Gathers journal [] [] where
  journal := by simp [State.initial]
  assembles := Trace.assembles_nil
  queue := List.Sublist.refl _

namespace State.Gathers

variable {state next : State} {journal : Array Event} {history later : History} {trace : Trace}

/-- Nothing is enqueued or bound; calls may be taken out of the queue. -/
theorem idle (h : state.Gathers journal history trace)
    (hjournal : next.journal = state.journal ++ later.toArray) (henqueued : later.enqueued = [])
    (hqueue : next.queue.Sublist state.queue) (hbindings : next.bindings = state.bindings) :
    next.Gathers journal (history ++ later) trace where
  journal := History.journal_append h.journal hjournal
  assembles := by
    rw [History.enqueued_append, henqueued, List.append_nil, hbindings]
    exact h.assembles
  queue := by
    rw [History.enqueued_append, henqueued, List.append_nil]
    exact hqueue.trans h.queue

theorem note (h : state.Gathers journal history trace) (event : Event)
    (hevent : event.enqueued? = none) :
    (state.note event).Gathers journal (history ++ [event]) trace :=
  h.idle (by simp [State.note]) (by simp [History.enqueued, hevent]) (List.Sublist.refl _) rfl

theorem move (h : state.Gathers journal history trace) (phase : Phase) :
    (state.move phase).Gathers journal (history ++ [.moved state.phase phase]) trace :=
  h.idle (by simp [State.move, State.note]) rfl (List.Sublist.refl _) rfl

/-- A statement that fails changes nothing but the journal. -/
theorem execute_stopped (h : state.Gathers journal history trace) {statement : Statement}
    {failure : Failure} (hfails : (statement.execute state).failure = some failure) :
    ∃ later : History,
      (statement.execute state).state.Gathers journal (history ++ later) trace := by
  obtain ⟨other, hperform, -⟩ := Option.map_eq_some_iff.1 hfails
  obtain ⟨hcallee, hbinding⟩ := Instruction.unbound_of_failure hperform
  obtain ⟨later, hrecords, henqueued⟩ := Statement.execute_records_of_not_call hcallee state
  refine ⟨later, h.idle hrecords.journal henqueued ?_ ?_⟩
  · rw [hrecords.queue, henqueued, List.append_nil]
  · have hbindings := Instruction.perform_bindings hcallee (state.note (.executed statement))
    rw [hbinding] at hbindings
    exact hbindings.trans (List.append_nil _)

/-- A statement that is completed joins the trace, with the call or the binding it makes. -/
theorem execute_done (h : state.Gathers journal history trace) {statement : Statement}
    (hdone : statement.execute state = .done next) :
    ∃ later : History, next.Gathers journal (history ++ later) (trace ++ [statement]) := by
  obtain rfl : (statement.execute state).state = next := congrArg Outcome.state hdone
  cases hcallee : statement.callee? with
  | some function =>
    rw [Statement.execute_call hcallee]
    refine ⟨[.executed statement, .enqueued ⟨function, state.bindings⟩ (state.queue.length + 1)],
      ?_, ?_, ?_⟩
    · simp [h.journal, Outcome.done, State.enqueue, State.note]
    · rw [History.enqueued_append]
      exact h.assembles.call hcallee
    · rw [History.enqueued_append]
      exact h.queue.append (List.Sublist.refl _)
  | none =>
    obtain ⟨later, hrecords, henqueued⟩ := Statement.execute_records_of_not_call hcallee state
    refine ⟨later, History.journal_append h.journal hrecords.journal, ?_, ?_⟩
    · have hbindings := Instruction.perform_bindings hcallee (state.note (.executed statement))
      rw [History.enqueued_append, henqueued, List.append_nil]
      exact hbindings ▸ h.assembles.other hcallee
    · rw [hrecords.queue, History.enqueued_append, henqueued, List.append_nil, List.append_nil]
      exact h.queue

/-- What a body completes joins the trace, whether the body fails or not. -/
theorem body (h : state.Gathers journal history trace) (body : List Statement) :
    ∃ later : History, (executeAll body state).state.Gathers journal (history ++ later)
      (trace ++ completed body state) := by
  induction body generalizing state history trace with
  | nil => exact ⟨[], by simpa [completed, executeAll, Outcome.done] using h⟩
  | cons statement rest ih =>
    cases hfails : (statement.execute state).failure with
    | some failure =>
      rw [executeAll_cons_stopped hfails, completed_cons_stopped hfails, List.append_nil]
      exact h.execute_stopped hfails
    | none =>
      have hdone := Outcome.eq_done hfails
      obtain ⟨first, hfirst⟩ := h.execute_done hdone
      obtain ⟨second, hsecond⟩ := ih hfirst
      rw [executeAll_cons_done hdone, completed_cons_done hdone]
      exact ⟨first ++ second, by simpa using hsecond⟩

theorem opening (h : state.Gathers journal history trace) (call : PendingCall) :
    (state.opening call).Gathers journal
      (history ++ [.dispatched (state.dispatches + 1) call]) trace :=
  h.idle (by simp [State.opening, State.note]) rfl (List.Sublist.refl _) rfl

/-- A scan leaves the open bindings alone, and takes at most one call out of the queue. -/
theorem pop (h : state.Gathers journal history trace) :
    ∃ later : History, state.pop.1.Gathers journal (history ++ later) trace := by
  obtain ⟨later, hscanned⟩ : ∃ later : History,
      state.select.1.Gathers journal (history ++ later) trace := by
    rw [State.select]
    generalize (state.queue.survey state.store).skipped = skipped
    refine ⟨_, h.idle (state.noteSkipped_records skipped).journal
      (History.quiet_skipped skipped).enqueued ?_ ?_⟩
    · rw [State.queue_noteSkipped]
    · rw [State.noteSkipped_eq]
  refine ⟨later, ?_⟩
  rw [State.pop]
  split
  · next scanned scan hselect =>
    rw [hselect] at hscanned
    refine ⟨hscanned.journal, hscanned.assembles, ?_⟩
    cases scan with
    | empty => exact hscanned.queue
    | stuck => exact hscanned.queue
    | runnable index call => exact (List.eraseIdx_sublist _ _).trans hscanned.queue
  · next scanned fault hselect =>
    rw [hselect] at hscanned
    exact hscanned

end State.Gathers

/-! ## Runs -/

/-- What is completed of a body that is carried out from a state, if there is one. -/
def completedOf : Option (List Statement × State) → Trace
  | some (body, state) => completed body state
  | none => []

namespace Setup

variable {setup : Setup} {journal : Array Event} {state : State} {history : History} {trace : Trace}

/-- The body of a function, and the state from which it is carried out. -/
def bodyOf? (setup : Setup) (name : String) (state : State) : Option (List Statement × State) :=
  (setup.program.find? name).map fun f => (f.body, state.note (.entered name))

/-- The body that a dispatch carries out, and the state from which it does. -/
def dispatched? (setup : Setup) (call : PendingCall) (state : State) :
    Option (List Statement × State) :=
  if setup.exhausted state then none
  else
    match Intrinsic.ofName? call.function with
    | some _ => none
    | none => setup.bodyOf? call.function (state.opening call)

/-- The body that a step carries out, and the state from which it does. -/
def drained? (setup : Setup) : Run → Option (List Statement × State)
  | .ended _ => none
  | .draining state =>
    match state.pop with
    | (popped, .ok (.runnable _ call)) => setup.dispatched? call popped
    | _ => none

/-- The body that a run carries out in a stage, and the state from which it does. -/
def entered? (setup : Setup) (journal : Array Event) : Nat → Option (List Statement × State)
  | 0 => setup.bodyOf? entryName ((State.initial journal).move .running)
  | steps + 1 => setup.drained? (setup.advance steps (setup.start (.initial journal)))

/-- The statements that a run completes before a stage, in order. -/
def performed (setup : Setup) (journal : Array Event) : Nat → Trace
  | 0 => []
  | stage + 1 => setup.performed journal stage ++ completedOf (setup.entered? journal stage)

/-- The bodies found are those that the run enters. -/
theorem entered?_eq_some_iff {stage : Nat} {body : List Statement} :
    setup.entered? journal stage = some (body, state) ↔ setup.Enters journal stage body state := by
  constructor
  · intro h
    cases stage with
    | zero =>
      obtain ⟨f, hfind, hf⟩ := Option.map_eq_some_iff.1 h
      obtain ⟨rfl, rfl⟩ := Prod.mk.inj hf
      exact .entry hfind
    | succ steps =>
      rw [entered?] at h
      cases hreach : setup.advance steps (setup.start (.initial journal)) with
      | ended outcome =>
        rw [hreach] at h
        cases h
      | draining earlier =>
        rw [hreach, drained?] at h
        split at h
        · next popped index call hpop =>
          obtain ⟨before, after, hselects, rfl⟩ := State.exists_selects_of_pop hpop
          rw [dispatched?] at h
          split at h
          · cases h
          · next hfree =>
            split at h
            · cases h
            · next hname =>
              obtain ⟨f, hfind, hf⟩ := Option.map_eq_some_iff.1 h
              obtain ⟨rfl, rfl⟩ := Prod.mk.inj hf
              exact .call hreach hselects (Bool.eq_false_iff.2 hfree) hname hfind
        · cases h
  · intro h
    cases h with
    | entry hfind => rw [entered?, bodyOf?, hfind]; rfl
    | @call steps earlier before after call f hreach hselects hfree hname hfind =>
      simp only [entered?, hreach, drained?, hselects.pop_eq, dispatched?, hfree, hname, bodyOf?,
        hfind]
      rfl

/-- A function adds what it completes to the trace. -/
theorem gathers_runFunction (setup : Setup) (h : state.Gathers journal history trace)
    (name : String) :
    ∃ later : History, (setup.runFunction name state).state.Gathers journal (history ++ later)
      (trace ++ completedOf (setup.bodyOf? name state)) := by
  rw [runFunction, Program.function, bodyOf?]
  cases setup.program.find? name with
  | none => exact ⟨[], by simpa [completedOf, Outcome.stopped] using h⟩
  | some f =>
    obtain ⟨later, hbody⟩ := (h.note (.entered name) rfl).body f.body
    exact ⟨_, List.append_assoc history _ later ▸ hbody⟩

/-- A dispatch adds what it completes to the trace. -/
theorem gathers_dispatch (setup : Setup) (h : state.Gathers journal history trace)
    (call : PendingCall) :
    ∃ later : History, (setup.dispatch call state).state.Gathers journal (history ++ later)
      (trace ++ completedOf (setup.dispatched? call state)) := by
  rw [dispatched?]
  cases hlimit : setup.exhausted state with
  | true =>
    rw [dispatch_of_exhausted call hlimit]
    exact ⟨[], by simpa [completedOf, Outcome.faulty, Outcome.stopped] using h⟩
  | false =>
    have hopening := h.opening call
    rw [dispatch_of_not_exhausted call hlimit]
    cases Intrinsic.ofName? call.function with
    | none =>
      obtain ⟨later, hbody⟩ := setup.gathers_runFunction hopening call.function
      exact ⟨_, List.append_assoc history _ later ▸ hbody⟩
    | some intrinsic =>
      obtain ⟨later, hrecords, henqueued, -⟩ :=
        setup.runIntrinsic_records intrinsic call (state.opening call)
      have hcarried := hopening.idle hrecords.journal henqueued
        (by rw [hrecords.queue, henqueued, List.append_nil])
        (setup.runIntrinsic_bindings intrinsic call (state.opening call))
      refine ⟨[.dispatched (state.dispatches + 1) call] ++ later, ?_⟩
      simpa [completedOf] using hcarried

/-- A step adds what it completes to the trace. -/
theorem gathers_drain (setup : Setup) (h : state.Gathers journal history trace) :
    ∃ later : History, (setup.drain state).state.Gathers journal (history ++ later)
      (trace ++ completedOf (setup.drained? (.draining state))) := by
  obtain ⟨scanned, hpop⟩ := h.pop
  -- where nothing is dispatched, the run ends in the state that the scan left
  have hends : ∀ (popped : State) (phase : Phase),
      popped.Gathers journal (history ++ scanned) trace →
      ∃ later : History, (popped.move phase).Gathers journal (history ++ later)
        (trace ++ completedOf none) := by
    intro popped phase hpopped
    refine ⟨scanned ++ [.moved popped.phase phase], ?_⟩
    simpa [completedOf] using hpopped.move phase
  rw [drain, drained?]
  cases hfound : state.pop with
  | mk popped found =>
    rw [hfound] at hpop
    cases found with
    | error fault => exact hends popped .failed hpop
    | ok scan =>
      cases scan with
      | empty => exact hends popped .halted hpop
      | stuck => exact hends popped .deadlocked hpop
      | runnable index call =>
        obtain ⟨later, hdispatch⟩ := setup.gathers_dispatch hpop call
        simp only
        cases hcarried : setup.dispatch call popped with
        | mk next failure =>
          rw [hcarried] at hdispatch
          cases failure with
          | none => exact ⟨scanned ++ later, List.append_assoc history _ _ ▸ hdispatch⟩
          | some failure =>
            refine ⟨scanned ++ later ++ [.moved next.phase .failed], ?_⟩
            simpa [Run.fail, Run.state, Outcome.stopped] using hdispatch.move .failed

/-- The entry function of a new machine starts the trace. -/
theorem gathers_start (setup : Setup) (journal : Array Event) :
    ∃ history : History, (setup.start (.initial journal)).state.Gathers journal history
      (setup.performed journal 1) := by
  have hnew := State.gathers_initial journal
  obtain ⟨later, hentry⟩ := setup.gathers_runFunction (hnew.move .running) entryName
  obtain ⟨phase, hphase⟩ := Run.state_afterEntry
    (setup.runFunction entryName ((State.initial journal).move .running))
  rw [setup.start_eq_afterEntry journal, hphase]
  exact ⟨_, hentry.move phase⟩

/-- After any number of steps the state has gathered what the completed statements come to. -/
theorem gathers_advance (setup : Setup) (journal : Array Event) (steps : Nat) :
    ∃ history : History,
      (setup.advance steps (setup.start (.initial journal))).state.Gathers journal history
        (setup.performed journal (steps + 1)) := by
  induction steps with
  | zero => exact setup.gathers_start journal
  | succ steps ih =>
    rw [advance_succ_last, performed, entered?]
    obtain ⟨history, hgathers⟩ := ih
    cases hreach : setup.advance steps (setup.start (.initial journal)) with
    | ended outcome =>
      rw [hreach] at hgathers
      exact ⟨history, by simpa [step, drained?, completedOf] using hgathers⟩
    | draining state =>
      rw [hreach] at hgathers
      obtain ⟨later, hnext⟩ := setup.gathers_drain hgathers
      exact ⟨_, hnext⟩

/-- So has the state from which a body is carried out. -/
theorem Enters.gathers {stage : Nat} {body : List Statement}
    (h : setup.Enters journal stage body state) :
    ∃ history : History, state.Gathers journal history (setup.performed journal stage) := by
  cases h with
  | entry hfind =>
    have hnew := State.gathers_initial journal
    exact ⟨_, (hnew.move .running).note (.entered entryName) rfl⟩
  | @call steps earlier before after call f hreach hselects hfree hname hfind =>
    obtain ⟨history, hgathers⟩ := setup.gathers_advance journal steps
    rw [hreach] at hgathers
    obtain ⟨scanned, hpop⟩ := hgathers.pop
    rw [Run.state, hselects.pop_eq] at hpop
    exact ⟨_, (hpop.opening call).note (.entered call.function) rfl⟩

/-! ## Points of a run -/

/-- A point of a run: its state, and the statements completed up to it. -/
inductive Point (setup : Setup) (journal : Array Event) : State → Trace → Prop where
  /-- The machine is new. -/
  | new : Point setup journal (.initial journal) []
  /-- A body is carried out, and the first of its statements are complete. -/
  | within {stage : Nat} {before after : List Statement} {state middle : State}
      (henters : setup.Enters journal stage (before ++ after) state)
      (hbefore : executeAll before state = .done middle) :
      Point setup journal middle (setup.performed journal stage ++ before)
  /-- The entry function and a number of steps are over. -/
  | scheduled (steps : Nat) :
      Point setup journal (setup.advance steps (setup.start (.initial journal))).state
        (setup.performed journal (steps + 1))

/-- At every point the state has gathered what the completed statements come to. -/
theorem gathers_point (h : setup.Point journal state trace) :
    ∃ history : History, state.Gathers journal history trace := by
  cases h with
  | new => exact ⟨[], State.gathers_initial journal⟩
  | @within stage before after earlier middle henters hbefore =>
    obtain ⟨history, hgathers⟩ := henters.gathers
    obtain ⟨later, hbody⟩ := hgathers.body before
    rw [hbefore, completed_of_done hbefore] at hbody
    exact ⟨_, hbody⟩
  | scheduled steps => exact setup.gathers_advance journal steps

/-- Calls that were enqueued stay in their places in the history. -/
theorem enqueued_prefix (setup : Setup) (journal : Array Event) {fewer more : Nat}
    (hle : fewer ≤ more) :
    ((setup.advance fewer (setup.start (.initial journal))).state.since journal).enqueued <+:
      ((setup.advance more (setup.start (.initial journal))).state.since journal).enqueued := by
  induction more, hle using Nat.le_induction with
  | base => exact List.prefix_refl _
  | succ more hle ih =>
    refine ih.trans ?_
    rw [advance_succ_last]
    obtain ⟨history, hgathers⟩ := setup.gathers_advance journal more
    cases hreach : setup.advance more (setup.start (.initial journal)) with
    | ended outcome => exact List.prefix_refl _
    | draining state =>
      rw [hreach, Run.state] at hgathers
      obtain ⟨later, hnext⟩ := setup.gathers_drain hgathers
      rw [step, State.since_eq hnext.journal, History.enqueued_append, Run.state,
        State.since_eq hgathers.journal]
      exact List.prefix_append _ _

/-- A queued call is the one that was enqueued under its number, then and ever after. -/
theorem enqueued_of_mem_tickets {fewer more number : Nat} {call : PendingCall}
    (hle : fewer ≤ more) (h : (call, number) ∈ setup.tickets journal fewer) :
    ((setup.advance more (setup.start (.initial journal))).state.since journal).enqueued[number]? =
      some call := by
  obtain ⟨history, hjournal, hticketed⟩ := setup.ticketed_advance journal fewer
  have hgiven := List.mk_mem_zipIdx_iff_getElem?.1 (hticketed.given.subset h)
  rw [← State.since_eq hjournal] at hgiven
  obtain ⟨rest, hrest⟩ := setup.enqueued_prefix journal hle
  obtain ⟨hlt, -⟩ := List.getElem?_eq_some_iff.1 hgiven
  rw [← hrest, List.getElem?_append_left hlt, hgiven]

/-- What a run performs in a stage is what it completes of the body it enters. -/
theorem performed_succ_of_enters {stage : Nat} {body : List Statement}
    (h : setup.Enters journal stage body state) :
    setup.performed journal (stage + 1) =
      setup.performed journal stage ++ completed body state := by
  rw [performed, entered?_eq_some_iff.2 h]
  rfl

theorem performed_succ_of_not_enters {stage : Nat}
    (h : ∀ body state, ¬ setup.Enters journal stage body state) :
    setup.performed journal (stage + 1) = setup.performed journal stage := by
  rw [performed]
  cases hentered : setup.entered? journal stage with
  | none => exact List.append_nil _
  | some entered => exact absurd (entered?_eq_some_iff.1 hentered) (h entered.1 entered.2)

/-- At every point of a run, each call enqueued so far has the function of its `call` and the
bindings made between the `call` before and that one, and the open bindings are those made behind
the last one; the statements counted are the completed ones of all bodies, in the order in which the
run enters them. A queued call is the one enqueued under its number for as long as it waits, and a
body adds to the queue at its end only. -/
theorem calls_gather_bindings (setup : Setup) (journal : Array Event) :
    (∀ state trace, setup.Point journal state trace →
      trace.Assembles (state.since journal).enqueued state.bindings ∧
        state.queue.Sublist (state.since journal).enqueued) ∧
    (∀ stage,
      (∀ body state, setup.Enters journal stage body state →
        setup.performed journal (stage + 1) =
          setup.performed journal stage ++ completed body state) ∧
      ((∀ body state, ¬ setup.Enters journal stage body state) →
        setup.performed journal (stage + 1) = setup.performed journal stage)) ∧
    (∀ steps, (setup.tickets journal steps).map Prod.fst =
      (setup.advance steps (setup.start (.initial journal))).state.queue) ∧
    (∀ fewer more call number, fewer ≤ more → (call, number) ∈ setup.tickets journal fewer →
      ((setup.advance more (setup.start (.initial journal))).state.since journal).enqueued[number]?
        = some call ∧
      ∀ other, (other, number) ∈ setup.tickets journal more → other = call) ∧
    (∀ stage before after state middle, setup.Enters journal stage (before ++ after) state →
      executeAll before state = .done middle → state.queue <+: middle.queue) := by
  refine ⟨?_, ?_, ?_, ?_, ?_⟩
  · intro state trace hpoint
    obtain ⟨history, hgathers⟩ := gathers_point hpoint
    rw [State.since_eq hgathers.journal]
    exact ⟨hgathers.assembles, hgathers.queue⟩
  · intro stage
    exact ⟨fun body state => performed_succ_of_enters, performed_succ_of_not_enters⟩
  · intro steps
    obtain ⟨history, -, hticketed⟩ := setup.ticketed_advance journal steps
    exact hticketed.queue
  · intro fewer more call number hle hticket
    have hcall := enqueued_of_mem_tickets hle hticket
    refine ⟨hcall, ?_⟩
    intro other hother
    have hsame := enqueued_of_mem_tickets (Nat.le_refl more) hother
    exact Option.some.inj (hsame.symm.trans hcall)
  · intro stage before after state middle _ hbefore
    obtain ⟨later, hrecords, -⟩ := executeAll_records before state
    rw [hbefore] at hrecords
    exact ⟨later.enqueued, hrecords.queue.symm⟩

/-- The entry function calls `relay` and leaves a binding open, and `relay` makes a call. -/
def handedOn : Setup :=
  let entry : List Instruction :=
    [.declare "a" "int", .assign "a" "1", .bind ⟨"a", .output⟩, .call "relay", .bind ⟨"a", .input⟩]
  let place (body : List Instruction) : List Statement :=
    body.map fun instruction => ⟨instruction, "", 0⟩
  ⟨⟨[⟨entryName, [], place entry, 1⟩, ⟨"relay", [], place [.call "print"], 7⟩]⟩, 0, none⟩

/-- The binding that the entry function left open goes into the call that `relay` makes, and the
call of `relay` has only the one made in front of it. -/
theorem calls_gather_bindings_handed_on :
    (handedOn.start (.initial #[])).state.bindings = [⟨"a", .input⟩] ∧
      (∃ (before : Trace) (statement : Statement) (after : Trace),
        handedOn.performed #[] 2 = before ++ statement :: after ∧ before.callees.length = 1 ∧
        statement.callee? = some "print" ∧ [⟨"a", .input⟩] = before.openBindings) ∧
      (⟨"relay", [⟨"a", .output⟩]⟩, 0) ∈ handedOn.tickets #[] 0 ∧
      ((handedOn.advance 1 (handedOn.start (.initial #[]))).state.since #[]).enqueued[0]? =
        some ⟨"relay", [⟨"a", .output⟩]⟩ ∧
      ∃ state middle, handedOn.Enters #[] 1 [⟨.call "print", "", 0⟩] state ∧
        executeAll [⟨.call "print", "", 0⟩] state = .done middle ∧
        state.queue <+: middle.queue := by
  obtain ⟨hpoints, -, -, htickets, hbodies⟩ := handedOn.calls_gather_bindings #[]
  obtain ⟨hassembles, -⟩ := hpoints _ _ (.scheduled 1)
  have hprint := hassembles.made 1 ⟨"print", [⟨"a", .input⟩]⟩ (by decide)
  have hrelay : (⟨"relay", [⟨"a", .output⟩]⟩, 0) ∈ handedOn.tickets #[] 0 := by decide
  obtain ⟨state, middle, henters, hdone⟩ : ∃ state middle,
      handedOn.Enters #[] 1 ([⟨.call "print", "", 0⟩] ++ []) state ∧
        executeAll [⟨.call "print", "", 0⟩] state = .done middle :=
    ⟨_, _, entered?_eq_some_iff.1 rfl, rfl⟩
  exact ⟨rfl, hprint, hrelay, (htickets 0 1 _ 0 (Nat.zero_le 1) hrelay).1, state, middle, henters,
    hdone, hbodies 1 _ [] state middle henters hdone⟩

end Setup

end Dataflow
