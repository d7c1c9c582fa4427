import Dataflow.Proofs.Draining

/-!
# What a run records

The journal tells the history of the calls of a run: `History.enqueued` are the calls that joined
the queue, `History.begun` those whose dispatch has begun, and `History.called` the functions named
by the `call` statements that were carried out, each in order. Carrying something out appends to
the journal, and to the queue exactly the calls that it records as enqueued (`State.Records`);
these are, in order, the calls of the `call` statements it carried out, and if it is complete those
of a whole body (`Setup.runFunction_records`, `Setup.dispatch_records`).

`Failure.OfCall` lists the failures of a dispatch that is not refused, each with what it says about
the call and the store (`Setup.dispatch_failure`).
-/

set_option autoImplicit false

namespace Dataflow

/-! ## Histories -/

/-- The call that an event adds to the queue. -/
def Event.enqueued? : Event → Option PendingCall
  | .enqueued call _ => some call
  | _ => none

/-- The call whose dispatch an event records. -/
def Event.begun? : Event → Option PendingCall
  | .dispatched _ call => some call
  | _ => none

/-- The function that an instruction calls. -/
def Instruction.callee? : Instruction → Option String
  | .call function => some function
  | _ => none

/-- The function that a statement calls. -/
def Statement.callee? (statement : Statement) : Option String :=
  statement.instruction.callee?

/-- The functions that a body calls, one for each `call` in it. -/
def Function.callees (f : Function) : List String :=
  f.body.filterMap Statement.callee?

/-- The function called by the statement that an event records. -/
def Event.callee? : Event → Option String
  | .executed statement => statement.callee?
  | _ => none

/-- Events in the order in which they were recorded. -/
abbrev History := List Event

namespace History

/-- The calls that joined the queue. -/
def enqueued (history : History) : List PendingCall := history.filterMap Event.enqueued?

/-- The calls whose dispatch has begun. -/
def begun (history : History) : List PendingCall := history.filterMap Event.begun?

/-- The functions named by the `call` statements that were carried out. -/
def called (history : History) : List String := history.filterMap Event.callee?

@[simp] theorem enqueued_append (first second : History) :
    enqueued (first ++ second) = enqueued first ++ enqueued second :=
  List.filterMap_append

@[simp] theorem begun_append (first second : History) :
    begun (first ++ second) = begun first ++ begun second :=
  List.filterMap_append

@[simp] theorem called_append (first second : History) :
    called (first ++ second) = called first ++ called second :=
  List.filterMap_append

/-- Nothing in the history is about calls. -/
structure Quiet (history : History) : Prop where
  enqueued : history.enqueued = []
  begun : history.begun = []
  called : history.called = []

theorem quiet_nil : Quiet [] := ⟨rfl, rfl, rfl⟩

theorem quiet_moved (before after : Phase) : Quiet [.moved before after] := ⟨rfl, rfl, rfl⟩

/-- Passing over calls is not about calls in this sense: they stay queued. -/
theorem quiet_skipped (skipped : List PendingCall) : Quiet (skipped.map Event.skipped) := by
  -- one argument for the three projections: each of them is `none` at a skipped call
  have hnone : ∀ {α : Type} (project : Event → Option α),
      (∀ call, project (.skipped call) = none) →
      (skipped.map Event.skipped).filterMap project = [] := by
    intro α project hproject
    rw [List.filterMap_eq_nil_iff]
    intro event hevent
    obtain ⟨call, -, rfl⟩ := List.mem_map.1 hevent
    exact hproject call
  exact ⟨hnone _ fun _ => rfl, hnone _ fun _ => rfl, hnone _ fun _ => rfl⟩

theorem Quiet.append {first second : History} (hfirst : first.Quiet) (hsecond : second.Quiet) :
    (first ++ second).Quiet where
  enqueued := by rw [enqueued_append, hfirst.enqueued, hsecond.enqueued, List.append_nil]
  begun := by rw [begun_append, hfirst.begun, hsecond.begun, List.append_nil]
  called := by rw [called_append, hfirst.called, hsecond.called, List.append_nil]

/-- What is not about calls can be left out at both ends. -/
theorem Quiet.around {first last : History} (hfirst : first.Quiet) (hlast : last.Quiet)
    (history : History) :
    (first ++ history ++ last).enqueued = history.enqueued ∧
      (first ++ history ++ last).begun = history.begun ∧
      (first ++ history ++ last).called = history.called := by
  simp only [enqueued_append, begun_append, called_append, hfirst.enqueued, hfirst.begun,
    hfirst.called, hlast.enqueued, hlast.begun, hlast.called, List.nil_append, List.append_nil,
    and_self]

/-- A journal that grew twice grew by both histories. -/
theorem journal_append {journal middle last : Array Event} {first second : History}
    (hfirst : middle = journal ++ first.toArray) (hsecond : last = middle ++ second.toArray) :
    last = journal ++ (first ++ second).toArray := by
  rw [hsecond, hfirst, Array.append_assoc]
  exact congrArg (journal ++ ·) (List.append_toArray first second)

end History

/-- What a state has recorded since a journal. -/
def State.since (state : State) (journal : Array Event) : History :=
  state.journal.toList.drop journal.size

theorem State.since_eq {state : State} {journal : Array Event} {history : History}
    (h : state.journal = journal ++ history.toArray) : state.since journal = history := by
  rw [since, h, Array.toList_append, List.drop_left' Array.length_toList]

/-! ## Records -/

/-- What was recorded between two states: the journal grew by the history, and the queue by the
calls in it that joined the queue. -/
structure State.Records (later earlier : State) (history : History) : Prop where
  journal : later.journal = earlier.journal ++ history.toArray
  queue : later.queue = earlier.queue ++ history.enqueued
  begun : history.begun = []

namespace State.Records

/-- What leaves the journal and the queue alone records nothing. -/
theorem nothing {later earlier : State} (hjournal : later.journal = earlier.journal)
    (hqueue : later.queue = earlier.queue) : later.Records earlier [] where
  journal := by simp [hjournal]
  queue := by simp [hqueue, History.enqueued]
  begun := rfl

theorem trans {later middle earlier : State} {first second : History}
    (hfirst : middle.Records earlier first) (hsecond : later.Records middle second) :
    later.Records earlier (first ++ second) where
  journal := History.journal_append hfirst.journal hsecond.journal
  queue := by
    rw [hsecond.queue, hfirst.queue, History.enqueued_append, List.append_assoc]
  begun := by
    rw [History.begun_append, hfirst.begun, hsecond.begun, List.append_nil]

/-- Recording one event that is not about the queue. -/
theorem note {state : State} {event : Event} (henqueued : event.enqueued? = none)
    (hbegun : event.begun? = none) : (state.note event).Records state [event] where
  journal := by simp [State.note]
  queue := by simp [State.note, History.enqueued, henqueued]
  begun := by simp [History.begun, hbegun]

theorem move (state : State) (phase : Phase) :
    (state.move phase).Records state [.moved state.phase phase] where
  journal := by simp [State.move, State.note]
  queue := (List.append_nil state.queue).symm
  begun := rfl

end State.Records

/-! ## Statements -/

/-- A write records itself, or nothing if it faults. -/
theorem State.write_records (state : State) (name : String) (value : Value) (ready : Bool) :
    ∃ history, (state.write name value ready).state.Records state history ∧
      history.enqueued = [] ∧ history.called = [] := by
  rw [State.write]
  cases state.store.write name value ready with
  | error fault => exact ⟨[], .nothing rfl rfl, rfl, rfl⟩
  | ok store =>
    refine ⟨[.wrote name value ready], ?_, rfl, rfl⟩
    have hstore : { state with store }.Records state [] := .nothing rfl rfl
    exact hstore.trans (.note rfl rfl)

theorem State.updateStore_records (state : State) (result : Except Fault Store) :
    (state.updateStore result).state.Records state [] := by
  cases result with
  | error fault => exact .nothing rfl rfl
  | ok store => exact .nothing rfl rfl

/-- An instruction enqueues a call if it is a `call`, and nothing otherwise. -/
theorem Instruction.perform_records (instruction : Instruction) (state : State) :
    ∃ history, (instruction.perform state).state.Records state history ∧ history.called = [] ∧
      history.enqueued.map PendingCall.function = instruction.callee?.toList := by
  cases instruction with
  | declare name type => exact ⟨[], state.updateStore_records _, rfl, rfl⟩
  | assign name literal =>
    obtain ⟨history, hrecords, henqueued, hcalled⟩ := state.write_records name (.text literal) true
    exact ⟨history, hrecords, hcalled, by rw [henqueued]; rfl⟩
  | bind b => exact ⟨[], .nothing rfl rfl, rfl, rfl⟩
  | call function =>
    refine ⟨[.enqueued ⟨function, state.bindings⟩ (state.queue.length + 1)], ?_, rfl, rfl⟩
    exact ⟨by simp [perform, Outcome.done, State.enqueue, State.note], rfl, rfl⟩
  | copy target source =>
    rw [Instruction.perform]
    cases state.store.get source with
    | error fault => exact ⟨[], .nothing rfl rfl, rfl, rfl⟩
    | ok v =>
      obtain ⟨history, hrecords, henqueued, hcalled⟩ :=
        state.write_records target v.value v.ready
      exact ⟨history, hrecords, hcalled, by rw [henqueued]; rfl⟩
  | delete name => exact ⟨[], state.updateStore_records _, rfl, rfl⟩

/-- A statement enqueues a call if it is a `call`, and is recorded either way. -/
theorem Statement.execute_records (statement : Statement) (state : State) :
    ∃ history, (statement.execute state).state.Records state history ∧
      history.called = statement.callee?.toList ∧
      history.enqueued.map PendingCall.function = statement.callee?.toList := by
  have hnote : (state.note (.executed statement)).Records state
      [.executed statement] := .note rfl rfl
  obtain ⟨history, hrecords, hcalled, hfunctions⟩ :=
    statement.instruction.perform_records (state.note (.executed statement))
  have h := hnote.trans hrecords
  refine ⟨[Event.executed statement] ++ history, ⟨h.journal, h.queue, h.begun⟩, ?_, ?_⟩
  · rw [History.called_append, hcalled, List.append_nil]
    cases hcallee : statement.callee? with
    | none => simp [History.called, Event.callee?, hcallee]
    | some function => simp [History.called, Event.callee?, hcallee]
  · rw [History.enqueued_append]
    exact hfunctions

/-- Statements enqueue the calls of those that were carried out, and if all were, one for each
`call` among them. -/
theorem executeAll_records (body : List Statement) (state : State) :
    ∃ history, (executeAll body state).state.Records state history ∧
      history.enqueued.map PendingCall.function = history.called ∧
      ((executeAll body state).failure = none →
        history.called = body.filterMap Statement.callee?) := by
  induction body generalizing state with
  | nil => exact ⟨[], .nothing rfl rfl, rfl, fun _ => rfl⟩
  | cons statement rest ih =>
    obtain ⟨history, hrecords, hcalled, hfunctions⟩ := statement.execute_records state
    rw [executeAll]
    cases hexecute : statement.execute state with
    | mk middle failure =>
      rw [hexecute] at hrecords
      cases failure with
      | some failure =>
        -- the statement that failed is recorded, but what comes behind it is not carried out
        exact ⟨history, hrecords, hfunctions.trans hcalled.symm, fun h => by cases h⟩
      | none =>
        obtain ⟨later, hlater, hlaterFunctions, hlaterCalled⟩ := ih middle
        refine ⟨history ++ later, hrecords.trans hlater, ?_, ?_⟩
        · rw [History.enqueued_append, History.called_append, List.map_append, hfunctions,
            hlaterFunctions, hcalled]
        · intro hdone
          rw [History.called_append, hcalled, hlaterCalled hdone]
          cases hcallee : statement.callee? with
          | none => rw [List.filterMap_cons_none hcallee]; rfl
          | some function => rw [List.filterMap_cons_some hcallee]; rfl

/-! ## Dispatches -/

/-- Printing is not recorded in the journal and leaves the queue alone. -/
theorem State.emit_records (state : State) (listener : Option Listener) (value : Value) :
    (state.emit listener value).state.Records state [] := by
  cases listener with
  | none => exact .nothing rfl rfl
  | some listener =>
    simp only [State.emit]
    cases listener.refuses state.told value with
    | none => exact .nothing rfl rfl
    | some refusal => exact .nothing rfl rfl

theorem State.runAdd_records (state : State) (call : PendingCall) :
    ∃ history, (state.runAdd call).state.Records state history ∧
      history.enqueued = [] ∧ history.called = [] := by
  rw [State.runAdd]
  split
  · next left right target rest hbindings =>
    split
    · next n hsum => exact state.write_records target.name (.int n) true
    · exact ⟨[], .nothing rfl rfl, rfl, rfl⟩
  · exact ⟨[], .nothing rfl rfl, rfl, rfl⟩

theorem State.runPrint_records (state : State) (listener : Option Listener) (call : PendingCall) :
    (state.runPrint listener call).state.Records state [] := by
  rw [State.runPrint]
  split
  · next source rest hbindings =>
    cases state.store.read source.name with
    | ok value => exact state.emit_records listener value
    | error fault => exact .nothing rfl rfl
  · exact .nothing rfl rfl

namespace Setup

/-- A call of an intrinsic function enqueues nothing. -/
theorem runIntrinsic_records (setup : Setup) (intrinsic : Intrinsic) (call : PendingCall)
    (state : State) :
    ∃ history, (setup.runIntrinsic intrinsic call state).state.Records state history ∧
      history.enqueued = [] ∧ history.called = [] := by
  have hnote : (state.note (.intrinsic call)).Records state [.intrinsic call] :=
    .note rfl rfl
  cases intrinsic with
  | add =>
    obtain ⟨history, hrecords, henqueued, hcalled⟩ :=
      State.runAdd_records (state.note (.intrinsic call)) call
    exact ⟨_, hnote.trans hrecords, henqueued, hcalled⟩
  | print => exact ⟨_, hnote.trans (State.runPrint_records _ setup.listener call), rfl, rfl⟩

/-- A function of the program enqueues the calls of the statements it carries out. -/
theorem runFunction_records (setup : Setup) (name : String) (state : State) :
    ∃ history, (setup.runFunction name state).state.Records state history ∧
      history.enqueued.map PendingCall.function = history.called ∧
      ((setup.runFunction name state).failure = none →
        ∃ f, setup.program.find? name = some f ∧ history.called = f.callees) := by
  rw [runFunction, Program.function]
  cases hfind : setup.program.find? name with
  | none => exact ⟨[], .nothing rfl rfl, rfl, fun h => by cases h⟩
  | some f =>
    have hnote : (state.note (.entered name)).Records state [.entered name] :=
      .note rfl rfl
    obtain ⟨history, hrecords, hfunctions, hcalled⟩ :=
      executeAll_records f.body (state.note (.entered name))
    exact ⟨_, hnote.trans hrecords, hfunctions, fun hdone => ⟨f, rfl, hcalled hdone⟩⟩

/-- A dispatch that is not refused enqueues the calls of the statements it carries out; an intrinsic
function has none. -/
theorem dispatch_records {setup : Setup} {state : State} (call : PendingCall)
    (h : setup.exhausted state = false) :
    ∃ history, (setup.dispatch call state).state.Records (state.opening call) history ∧
      history.enqueued.map PendingCall.function = history.called ∧
      ((setup.dispatch call state).failure = none →
        match Intrinsic.ofName? call.function with
        | some _ => history.called = []
        | none =>
          ∃ f, setup.program.find? call.function = some f ∧ history.called = f.callees) := by
  rw [dispatch_of_not_exhausted call h]
  cases Intrinsic.ofName? call.function with
  | some intrinsic =>
    obtain ⟨history, hrecords, henqueued, hcalled⟩ :=
      setup.runIntrinsic_records intrinsic call (state.opening call)
    exact ⟨history, hrecords, by rw [henqueued, hcalled]; rfl, fun _ => hcalled⟩
  | none => exact setup.runFunction_records call.function (state.opening call)

/-- The start of a run: what is queued are the calls of the statements of the entry function that
were carried out, and if the run goes on these are all of its calls. -/
theorem start_records (setup : Setup) (journal : Array Event) :
    ∃ history, (setup.start (.initial journal)).state.Records (.initial journal) history ∧
      history.enqueued.map PendingCall.function = history.called ∧
      ∀ state, setup.start (.initial journal) = .draining state →
        ∃ f, setup.program.find? entryName = some f ∧ history.called = f.callees := by
  have hmove := State.Records.move (.initial journal) .running
  obtain ⟨history, hrecords, hfunctions, hcalled⟩ :=
    setup.runFunction_records entryName ((State.initial journal).move .running)
  have hentry := hmove.trans hrecords
  rw [setup.start_eq_afterEntry journal]
  cases hrun : setup.runFunction entryName ((State.initial journal).move .running) with
  | mk state failure =>
    rw [hrun] at hentry hcalled
    have hfirst := History.quiet_moved (State.initial journal).phase .running
    cases failure with
    | some failure =>
      obtain ⟨henqueued, -, hcalls⟩ :=
        hfirst.around (History.quiet_moved state.phase .failed) history
      refine ⟨_, hentry.trans (.move state .failed), ?_, ?_⟩
      · rw [henqueued, hcalls, hfunctions]
      · intro later h
        cases h
    | none =>
      obtain ⟨henqueued, -, hcalls⟩ :=
        hfirst.around (History.quiet_moved state.phase .draining) history
      refine ⟨_, hentry.trans (.move state .draining), ?_, ?_⟩
      · rw [henqueued, hcalls, hfunctions]
      · intro later _
        rw [hcalls]
        exact hcalled rfl

end Setup

/-! ## Failures of a dispatch -/

/-- The failures of a call that is not refused, in the store in which it is carried out. -/
inductive Failure.OfCall (call : PendingCall) (store : Store) : Failure → Prop where
  | statement {fault : Fault} (hname : Intrinsic.ofName? call.function = none)
      (hcause : fault.cause.OfStatement) : OfCall call store (.fault fault)
  | unknownFunction (hname : Intrinsic.ofName? call.function = none) :
      OfCall call store (.fault (.unplaced (.unknownFunction call.function)))
  | arity {intrinsic : Intrinsic} (hname : Intrinsic.ofName? call.function = some intrinsic)
      (expected got : Nat) :
      OfCall call store (.fault (.unplaced (.intrinsicArity call.function expected got)))
  | unknownVariable {intrinsic : Intrinsic} {b : Binding}
      (hname : Intrinsic.ofName? call.function = some intrinsic) (hb : b ∈ call.bindings)
      (hfind : store.find? b.name = none) :
      OfCall call store (.fault (.unplaced (.unknownVariable b.name)))
  | invalidOperand {left right b : Binding} {rest : List Binding} {v : Variable}
      (hname : Intrinsic.ofName? call.function = some .add)
      (hbindings : call.bindings = left :: right :: rest) (hb : b = left ∨ b = right)
      (hfind : store.find? b.name = some v) (hvalue : v.value.toInt? = none) :
      OfCall call store (.fault (.unplaced (.invalidOperand b.name v.value)))
  | refusal (hname : Intrinsic.ofName? call.function = some .print) (r : Refusal) :
      OfCall call store (.refusal r)

section Failures

variable {state : State} {call : PendingCall} {failure : Failure}

theorem State.runAdd_failure (hname : Intrinsic.ofName? call.function = some .add)
    (h : (state.runAdd call).failure = some failure) : failure.OfCall call state.store := by
  rw [State.runAdd] at h
  split at h
  · next left right target rest hbindings =>
    split at h
    · next n hsum =>
      -- the sum is there, so only the target can be missing
      rw [State.write] at h
      cases hwrite : state.store.write target.name (.int n) true with
      | ok store => simp [hwrite, Outcome.done] at h
      | error fault =>
        simp only [hwrite, Outcome.stopped, Option.some.injEq] at h
        obtain ⟨hnames, rfl⟩ := Store.write_eq_error_iff.1 hwrite
        have hfind : state.store.find? target.name = none := by
          rw [Option.eq_none_iff_forall_not_mem]
          intro v hv
          exact hnames ((Store.exists_find?_iff _ _).1 ⟨v, hv⟩)
        rw [← h]
        exact .unknownVariable hname (by simp [hbindings]) hfind
    · next fault hsum =>
      have hfailure : failure = .fault fault := (Option.some.inj h).symm
      -- both summands fail in the same ways
      have hoperand : ∃ b, (b = left ∨ b = right) ∧ state.store.operand b.name = .error fault := by
        rcases Store.sum_eq_error hsum with hleft | hright
        · exact ⟨left, Or.inl rfl, hleft⟩
        · exact ⟨right, Or.inr rfl, hright⟩
      obtain ⟨b, hb, hb'⟩ := hoperand
      have hmem : b ∈ call.bindings := by
        rcases hb with rfl | rfl
        · simp [hbindings]
        · simp [hbindings]
      rcases Store.operand_eq_error hb' with ⟨hfind, rfl⟩ | ⟨v, hfind, hvalue, rfl⟩
      · rw [hfailure]
        exact .unknownVariable hname hmem hfind
      · rw [hfailure]
        exact .invalidOperand hname hbindings hb hfind hvalue
  · rw [← Option.some.inj h]
    exact .arity hname 3 _

theorem State.runPrint_failure {listener : Option Listener}
    (hname : Intrinsic.ofName? call.function = some .print)
    (h : (state.runPrint listener call).failure = some failure) :
    failure.OfCall call state.store := by
  rw [State.runPrint] at h
  split at h
  · next source rest hbindings =>
    cases hread : state.store.read source.name with
    | error fault =>
      obtain ⟨hfind, rfl⟩ := Store.read_eq_error_iff.1 hread
      simp only [hread, Outcome.stopped, Option.some.injEq] at h
      rw [← h]
      exact .unknownVariable hname (by simp [hbindings]) hfind
    | ok value =>
      simp only [hread] at h
      cases listener with
      | none => simp [State.emit, Outcome.done] at h
      | some listener =>
        simp only [State.emit] at h
        cases hrefuses : listener.refuses state.told value with
        | none => simp [hrefuses, Outcome.done] at h
        | some refusal =>
          simp only [hrefuses, Outcome.stopped, Option.some.injEq] at h
          rw [← h]
          exact .refusal hname refusal
  · rw [← Option.some.inj h]
    exact .arity hname 1 0

/-- A function fails at one of its statements, or because it is not defined. -/
theorem Setup.runFunction_failure {setup : Setup} {name : String}
    (h : (setup.runFunction name state).failure = some failure) :
    (∃ fault, failure = .fault fault ∧ fault.cause.OfStatement) ∨
      failure = .fault (.unplaced (.unknownFunction name)) := by
  rw [runFunction, Program.function] at h
  cases hfind : setup.program.find? name with
  | none =>
    simp only [hfind] at h
    exact Or.inr (Option.some.inj h).symm
  | some f =>
    simp only [hfind] at h
    exact Or.inl ((executeAll_executed f.body _).failure failure h)

/-- A run that ends at its start failed at a statement, or has no entry function. -/
theorem Setup.start_failure {setup : Setup} {journal : Array Event} {outcome : Outcome}
    (hstart : setup.start (.initial journal) = .ended outcome)
    (h : outcome.failure = some failure) :
    (∃ fault, failure = .fault fault ∧ fault.cause.OfStatement) ∨
      failure = .fault (.unplaced (.unknownFunction entryName)) := by
  rw [setup.start_eq_afterEntry journal] at hstart
  cases hentry : setup.runFunction entryName ((State.initial journal).move .running) with
  | mk state stopped =>
    rw [hentry] at hstart
    cases stopped with
    | none => cases hstart
    | some stopped =>
      obtain rfl := Run.ended.inj hstart
      obtain rfl := Option.some.inj h
      exact runFunction_failure (congrArg Outcome.failure hentry)

/-- The failures of a dispatch that is not refused. -/
theorem Setup.dispatch_failure {setup : Setup} (hfree : setup.exhausted state = false)
    (h : (setup.dispatch call state).failure = some failure) :
    failure.OfCall call state.store := by
  rw [dispatch_of_not_exhausted call hfree] at h
  cases hname : Intrinsic.ofName? call.function with
  | none =>
    simp only [hname] at h
    rcases runFunction_failure h with ⟨fault, rfl, hcause⟩ | rfl
    · exact .statement hname hcause
    · exact .unknownFunction hname
  | some intrinsic =>
    simp only [hname] at h
    -- the two events that are recorded first leave the store alone
    have hstore : ((state.opening call).note (.intrinsic call)).store = state.store := rfl
    rw [← hstore]
    cases intrinsic with
    | add => exact State.runAdd_failure hname h
    | print => exact State.runPrint_failure hname h

end Failures

end Dataflow
