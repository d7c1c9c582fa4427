import Dataflow.Proofs.Accumulation
import Dataflow.Proofs.Emission

/-!
# Runs without their prints

A program is silenced by taking each `call` of `print` out of its bodies, and with it the bindings
made for it. If no body leaves bindings open at its end, the run of the silenced program is the run
of the program with the prints left out: its queue is the queue without the prints, and since a
print changes nothing that another call can see, the scan finds the other calls in the same order
(`State.Muted.selects`). A step of the run is therefore a step of the silenced run or, if it
carries out a print, none at all (`Setup.silenced_drain`).

Main statement: `silenced_run_halts_alike`.
-/

set_option autoImplicit false

namespace Dataflow

/-! ## Silenced programs -/

/-- The function that the next `call` of a body names. -/
def nextCallee? (body : List Statement) : Option String :=
  body.findSome? Statement.callee?

/-- Whether a statement is a `bind` or a `call`. -/
def Statement.preparesCall (statement : Statement) : Bool :=
  statement.binding?.isSome || statement.callee?.isSome

/-- A body without the calls of `print`, and without the bindings made for them. -/
def silencedBody : List Statement → List Statement
  | [] => []
  | statement :: rest =>
    if statement.preparesCall ∧ nextCallee? (statement :: rest) = some Intrinsic.print.name then
      silencedBody rest
    else statement :: silencedBody rest

/-- The function with its body silenced. -/
def Function.silenced (f : Function) : Function := { f with body := silencedBody f.body }

/-- The program with all its functions silenced. -/
def Program.silenced (program : Program) : Program := ⟨program.functions.map Function.silenced⟩

/-- The machine of the silenced program, with the same limit and listener. -/
def Setup.silenced (setup : Setup) : Setup := { setup with program := setup.program.silenced }

example : silencedBody
    [⟨.bind ⟨"a", .input⟩, "", 0⟩, ⟨.assign "a" "1", "", 0⟩, ⟨.call "print", "", 0⟩,
      ⟨.bind ⟨"a", .output⟩, "", 0⟩, ⟨.call "fill", "", 0⟩] =
    [⟨.assign "a" "1", "", 0⟩, ⟨.bind ⟨"a", .output⟩, "", 0⟩, ⟨.call "fill", "", 0⟩] := by
  decide

/-- Whether a call is one of `print`. -/
def PendingCall.prints (call : PendingCall) : Bool := call.function = Intrinsic.print.name

/-- The calls of a queue that print nothing. -/
def Queue.silenced (queue : Queue) : Queue := queue.filter fun call => !call.prints

section Bodies

variable {statement : Statement} {rest : List Statement}

theorem nextCallee?_of_call {function : String} (h : statement.callee? = some function) :
    nextCallee? (statement :: rest) = some function := by
  rw [nextCallee?, List.findSome?_cons, h]

theorem nextCallee?_of_not_call (h : statement.callee? = none) :
    nextCallee? (statement :: rest) = nextCallee? rest := by
  rw [nextCallee?, List.findSome?_cons, h]
  rfl

end Bodies

theorem Queue.silenced_append (first second : Queue) :
    Queue.silenced (first ++ second) = Queue.silenced first ++ Queue.silenced second :=
  List.filter_append first second

theorem Program.find?_silenced (program : Program) (name : String) :
    program.silenced.find? name = (program.find? name).map Function.silenced := by
  rw [find?, silenced, List.find?_map]
  rfl

/-! ## What the store determines -/

/-- Two operations leave the same store, and come out alike. -/
structure Outcome.Agrees (outcome other : Outcome) : Prop where
  store : outcome.state.store = other.state.store
  failure : outcome.failure = other.failure

section Agrees

variable {state other : State} (h : state.store = other.store)
include h

theorem State.write_agrees (name : String) (value : Value) (ready : Bool) :
    (state.write name value ready).Agrees (other.write name value ready) := by
  rw [State.write, State.write, h]
  cases other.store.write name value ready with
  | ok store => exact ⟨rfl, rfl⟩
  | error fault => exact ⟨h, rfl⟩

theorem State.updateStore_agrees (result : Except Fault Store) :
    (state.updateStore result).Agrees (other.updateStore result) := by
  cases result with
  | ok store => exact ⟨rfl, rfl⟩
  | error fault => exact ⟨h, rfl⟩

/-- What an instruction does to the store depends on the store alone. -/
theorem Instruction.perform_agrees (instruction : Instruction) :
    (instruction.perform state).Agrees (instruction.perform other) := by
  cases instruction with
  | declare name type =>
    rw [perform, perform, h]
    exact State.updateStore_agrees h _
  | assign name literal => exact State.write_agrees h name (.text literal) true
  | bind b => exact ⟨h, rfl⟩
  | call function => exact ⟨h, rfl⟩
  | copy target source =>
    rw [perform, perform, h]
    cases other.store.get source with
    | ok v => exact State.write_agrees h target v.value v.ready
    | error fault => exact ⟨h, rfl⟩
  | delete name =>
    rw [perform, perform, h]
    exact State.updateStore_agrees h _

theorem Statement.execute_agrees (statement : Statement) :
    (statement.execute state).Agrees (statement.execute other) := by
  have hnote : (state.note (.executed statement)).store =
      (other.note (.executed statement)).store := h
  have hperform := statement.instruction.perform_agrees hnote
  exact ⟨hperform.store, congrArg (Option.map _) hperform.failure⟩

theorem State.runAdd_agrees (call : PendingCall) :
    (state.runAdd call).Agrees (other.runAdd call) := by
  rw [State.runAdd, State.runAdd, h]
  split
  · next left right target rest hbindings =>
    cases other.store.sum left.name right.name with
    | ok n => exact State.write_agrees h target.name (.int n) true
    | error fault => exact ⟨h, rfl⟩
  · exact ⟨h, rfl⟩

end Agrees

/-! ## Muted states -/

/-- A state is another one in which nothing was printed and no print is queued. -/
structure State.Muted (quiet loud : State) : Prop where
  store : quiet.store = loud.store
  queue : quiet.queue = Queue.silenced loud.queue
  output : quiet.output = #[]
  dispatches : quiet.dispatches + loud.output.size = loud.dispatches

/-- The queue, the output and the number of dispatches are as they were. -/
structure State.Keeps (later earlier : State) : Prop where
  queue : later.queue = earlier.queue
  output : later.output = earlier.output
  dispatches : later.dispatches = earlier.dispatches

/-- The bindings that are open in front of the rest of a body: those made for a print are not made
in the silenced body. -/
def mutedBindings (rest : List Statement) (bindings : List Binding) : List Binding :=
  if nextCallee? rest = some Intrinsic.print.name then [] else bindings

namespace State.Muted

variable {quiet loud : State}

/-- What leaves the same store in both states, and the rest alone. -/
theorem of_keeps (h : quiet.Muted loud) {muted next : State} (hstore : muted.store = next.store)
    (hquiet : muted.Keeps quiet) (hloud : next.Keeps loud) : muted.Muted next where
  store := hstore
  queue := by rw [hquiet.queue, h.queue, hloud.queue]
  output := by rw [hquiet.output, h.output]
  dispatches := by rw [hquiet.dispatches, hloud.output, hloud.dispatches, h.dispatches]

/-- A statement that is neither a `bind` nor a `call` does the same in both states. -/
theorem execute_other (h : quiet.Muted loud) {statement : Statement} {next : State}
    (hother : statement.preparesCall = false) (hdone : statement.execute loud = .done next) :
    ∃ muted, statement.execute quiet = .done muted ∧ muted.Muted next ∧
      muted.bindings = quiet.bindings ∧ next.bindings = loud.bindings := by
  obtain ⟨hbinding, hcallee⟩ : statement.binding? = none ∧ statement.callee? = none := by
    simpa [Statement.preparesCall] using hother
  have hagrees := statement.execute_agrees h.store
  rw [hdone] at hagrees
  -- what such a statement leaves alone, in whichever state
  have hframe : ∀ state : State, (statement.execute state).state.Keeps state ∧
      (statement.execute state).state.bindings = state.bindings := by
    intro state
    obtain ⟨later, hrecords, henqueued⟩ := Statement.execute_records_of_not_call hcallee state
    have hexecuted := statement.execute_executed state
    have hbindings := Instruction.perform_bindings hcallee (state.note (.executed statement))
    have hnone : statement.instruction.binding? = none := hbinding
    rw [hnone] at hbindings
    refine ⟨⟨?_, hexecuted.output, hexecuted.dispatches⟩, hbindings.trans (List.append_nil _)⟩
    rw [hrecords.queue, henqueued, List.append_nil]
  obtain ⟨hquiet, hbindings⟩ := hframe quiet
  have hloud := hframe loud
  rw [hdone] at hloud
  exact ⟨_, Outcome.eq_done hagrees.failure, h.of_keeps hagrees.store hquiet hloud.1, hbindings,
    hloud.2⟩

/-- A call that is enqueued in both states, unless it is a print. -/
theorem enqueue (h : quiet.Muted loud) {call : PendingCall} (hcall : call.prints = false) :
    (quiet.enqueue call).Muted (loud.enqueue call) where
  store := h.store
  queue := by
    have hlast : Queue.silenced [call] = [call] := by
      rw [Queue.silenced, List.filter_singleton, hcall]
      rfl
    show quiet.queue ++ [call] = Queue.silenced (loud.queue ++ [call])
    rw [Queue.silenced_append, hlast, h.queue]
  output := h.output
  dispatches := h.dispatches

/-- A print is enqueued only in the state that is not muted. -/
theorem enqueue_print (h : quiet.Muted loud) {call : PendingCall} (hcall : call.prints = true) :
    quiet.Muted (loud.enqueue call) where
  store := h.store
  queue := by
    have hlast : Queue.silenced [call] = [] := by
      rw [Queue.silenced, List.filter_singleton, hcall]
      rfl
    show quiet.queue = Queue.silenced (loud.queue ++ [call])
    rw [Queue.silenced_append, hlast, List.append_nil, h.queue]
  output := h.output
  dispatches := h.dispatches

/-- Recording events makes no difference. -/
theorem of_note (h : quiet.Muted loud) (event other : Event) :
    (quiet.note event).Muted (loud.note other) :=
  ⟨h.store, h.queue, h.output, h.dispatches⟩

/-- An open binding makes no difference but to the next call. -/
theorem of_bindings (h : quiet.Muted loud) (bindings others : List Binding) :
    { quiet with bindings }.Muted { loud with bindings := others } :=
  ⟨h.store, h.queue, h.output, h.dispatches⟩

end State.Muted

/-! ## Bodies -/

/-- A `bind` adds to the open bindings and does nothing else. -/
theorem Statement.execute_bind {statement : Statement} {b : Binding}
    (h : statement.binding? = some b) (state : State) :
    statement.execute state =
      .done { state.note (.executed statement) with bindings := state.bindings ++ [b] } := by
  obtain ⟨instruction, source, line⟩ := statement
  cases instruction with
  | bind other =>
    obtain rfl := Option.some.inj h
    rfl
  | declare | assign | call | copy | delete => cases h

section MutedBindings

variable {statement : Statement} {rest : List Statement}

@[simp] theorem mutedBindings_nil (rest : List Statement) : mutedBindings rest [] = [] := by
  rw [mutedBindings, ite_self]

theorem mutedBindings_of_print (h : nextCallee? rest = some Intrinsic.print.name)
    (bindings : List Binding) : mutedBindings rest bindings = [] :=
  if_pos h

theorem mutedBindings_of_not_print (h : nextCallee? rest ≠ some Intrinsic.print.name)
    (bindings : List Binding) : mutedBindings rest bindings = bindings :=
  if_neg h

/-- Only a `call` changes what the next call is. -/
theorem mutedBindings_of_not_call (h : statement.callee? = none) (bindings : List Binding) :
    mutedBindings (statement :: rest) bindings = mutedBindings rest bindings := by
  rw [mutedBindings, mutedBindings, nextCallee?_of_not_call h]

end MutedBindings

section Bodies

variable {statement : Statement} {rest : List Statement} {quiet loud next : State}

/-- A statement that is dropped: it is a `bind` made for a print, or the `call` itself. -/
theorem State.Muted.dropped (h : quiet.Muted loud)
    (hbindings : quiet.bindings = mutedBindings (statement :: rest) loud.bindings)
    (hprepares : statement.preparesCall = true)
    (hprint : nextCallee? (statement :: rest) = some Intrinsic.print.name)
    (hdone : statement.execute loud = .done next) :
    quiet.Muted next ∧ quiet.bindings = mutedBindings rest next.bindings := by
  rw [mutedBindings_of_print hprint] at hbindings
  cases hcallee : statement.callee? with
  | some function =>
    rw [nextCallee?_of_call hcallee] at hprint
    rw [Statement.execute_call hcallee] at hdone
    obtain rfl := congrArg Outcome.state hdone
    have hprints : PendingCall.prints ⟨function, loud.bindings⟩ = true :=
      decide_eq_true (Option.some.inj hprint)
    have hqueued := (h.of_note (.executed statement) (.executed statement)).enqueue_print hprints
    exact ⟨⟨hqueued.store, hqueued.queue, hqueued.output, hqueued.dispatches⟩,
      hbindings.trans (mutedBindings_nil rest).symm⟩
  | none =>
    rw [nextCallee?_of_not_call hcallee] at hprint
    obtain ⟨b, hb⟩ : ∃ b, statement.binding? = some b := by
      simpa [Statement.preparesCall, hcallee, Option.isSome_iff_exists] using hprepares
    rw [Statement.execute_bind hb] at hdone
    obtain rfl := congrArg Outcome.state hdone
    exact ⟨⟨h.store, h.queue, h.output, h.dispatches⟩,
      hbindings.trans (mutedBindings_of_print hprint _).symm⟩

/-- A statement that is kept does the same in both states. -/
theorem State.Muted.kept (h : quiet.Muted loud)
    (hbindings : quiet.bindings = mutedBindings (statement :: rest) loud.bindings)
    (hkept : ¬ (statement.preparesCall = true ∧
      nextCallee? (statement :: rest) = some Intrinsic.print.name))
    (hdone : statement.execute loud = .done next) :
    ∃ muted, statement.execute quiet = .done muted ∧ muted.Muted next ∧
      muted.bindings = mutedBindings rest next.bindings := by
  cases hprepares : statement.preparesCall with
  | false =>
    obtain ⟨-, hcallee⟩ : statement.binding? = none ∧ statement.callee? = none := by
      simpa [Statement.preparesCall] using hprepares
    obtain ⟨muted, hmuted, hrelated, hquiet, hloud⟩ := h.execute_other hprepares hdone
    refine ⟨muted, hmuted, hrelated, ?_⟩
    rw [hquiet, hbindings, hloud, mutedBindings_of_not_call hcallee]
  | true =>
    -- what is kept goes into another call than a print, so the open bindings are the same
    have hprint : nextCallee? (statement :: rest) ≠ some Intrinsic.print.name :=
      fun hprint => hkept ⟨hprepares, hprint⟩
    rw [mutedBindings_of_not_print hprint] at hbindings
    have hnoted := h.of_note (.executed statement) (.executed statement)
    cases hcallee : statement.callee? with
    | some function =>
      rw [nextCallee?_of_call hcallee] at hprint
      rw [Statement.execute_call hcallee] at hdone
      obtain rfl := congrArg Outcome.state hdone
      have hprints : PendingCall.prints ⟨function, loud.bindings⟩ = false :=
        decide_eq_false fun hname => hprint (congrArg some hname)
      refine ⟨_, Statement.execute_call hcallee quiet, ?_, (mutedBindings_nil rest).symm⟩
      rw [hbindings]
      exact (hnoted.enqueue hprints).of_bindings [] []
    | none =>
      rw [nextCallee?_of_not_call hcallee] at hprint
      obtain ⟨b, hb⟩ : ∃ b, statement.binding? = some b := by
        simpa [Statement.preparesCall, hcallee, Option.isSome_iff_exists] using hprepares
      rw [Statement.execute_bind hb] at hdone
      obtain rfl := congrArg Outcome.state hdone
      refine ⟨_, Statement.execute_bind hb quiet, hnoted.of_bindings _ _, ?_⟩
      exact (congrArg (· ++ [b]) hbindings).trans (mutedBindings_of_not_print hprint _).symm

/-- A body that is complete is complete when silenced, and leaves the same bindings open. -/
theorem State.Muted.body {body : List Statement} (h : quiet.Muted loud)
    (hbindings : quiet.bindings = mutedBindings body loud.bindings)
    (hdone : executeAll body loud = .done next) :
    ∃ muted, executeAll (silencedBody body) quiet = .done muted ∧ muted.Muted next ∧
      muted.bindings = next.bindings := by
  induction body generalizing quiet loud with
  | nil =>
    obtain rfl : loud = next := congrArg Outcome.state hdone
    exact ⟨quiet, rfl, h, hbindings⟩
  | cons statement rest ih =>
    cases hfirst : (statement.execute loud).failure with
    | some failure =>
      rw [executeAll_cons_stopped hfirst] at hdone
      rw [hdone] at hfirst
      cases hfirst
    | none =>
      have hmiddle := Outcome.eq_done hfirst
      rw [executeAll_cons_done hmiddle] at hdone
      rw [silencedBody]
      split
      · next hdrop =>
        obtain ⟨hrelated, hopen⟩ := h.dropped hbindings hdrop.1 hdrop.2 hmiddle
        exact ih hrelated hopen hdone
      · next hkept =>
        obtain ⟨muted, hmuted, hrelated, hopen⟩ := h.kept hbindings hkept hmiddle
        rw [executeAll_cons_done hmuted]
        exact ih hrelated hopen hdone

/-- What a complete body leaves open are the bindings behind its last `call`, if nothing was open
before. -/
theorem bindings_of_done {body : List Statement} {state : State} (hstate : state.bindings = [])
    (h : executeAll body state = .done next) : next.bindings = Trace.openBindings body := by
  induction body using List.reverseRecOn generalizing next with
  | nil =>
    obtain rfl : state = next := congrArg Outcome.state h
    exact hstate
  | append_singleton body statement ih =>
    obtain ⟨middle, hmiddle, hlast⟩ := executeAll_concat_done h
    cases hcallee : statement.callee? with
    | some function =>
      rw [Statement.execute_call hcallee] at hlast
      obtain rfl := congrArg Outcome.state hlast
      exact (Trace.openBindings_concat_call hcallee).symm
    | none =>
      have hbindings := Instruction.perform_bindings hcallee (middle.note (.executed statement))
      have hnext : (statement.execute middle).state.bindings = next.bindings :=
        congrArg (fun outcome => outcome.state.bindings) hlast
      rw [Trace.openBindings_concat hcallee, ← ih hmiddle, ← hnext]
      exact hbindings

end Bodies

/-! ## Dispatches -/

namespace State.Muted

variable {quiet loud next : State}

/-- A scan that selects a call other than a print selects it in the muted state too: the calls ahead
of it are among those ahead of it before. -/
theorem selects (h : quiet.Muted loud) {before after : Queue} {call : PendingCall}
    (hselects : loud.Selects before call after) (hcall : call.prints = false) :
    quiet.Selects (Queue.silenced before) call (Queue.silenced after) where
  queue := by
    have hfirst : Queue.silenced (call :: after) = call :: Queue.silenced after :=
      List.filter_cons_of_pos (by rw [hcall]; rfl)
    rw [h.queue, hselects.queue, Queue.silenced_append, hfirst]
  ahead := by
    intro other hother
    rw [h.store]
    exact hselects.ahead other (List.mem_filter.1 hother).1
  eligible := by
    rw [h.store]
    exact hselects.eligible

theorem taking (h : quiet.Muted loud) (before after : Queue) :
    (quiet.taking (Queue.silenced before) (Queue.silenced after)).Muted
      (loud.taking before after) := by
  rw [State.taking_eq, State.taking_eq]
  exact ⟨h.store, (Queue.silenced_append before after).symm, h.output, h.dispatches⟩

/-- Both states count a dispatch. -/
theorem opening (h : quiet.Muted loud) (call : PendingCall) :
    (quiet.opening call).Muted (loud.opening call) where
  store := h.store
  queue := h.queue
  output := h.output
  dispatches := by
    have hcount := h.dispatches
    show quiet.dispatches + 1 + loud.output.size = loud.dispatches + 1
    omega

/-- A sum does the same in both states. -/
theorem runAdd (h : quiet.Muted loud) {call : PendingCall} (hdone : loud.runAdd call = .done next) :
    ∃ muted, quiet.runAdd call = .done muted ∧ muted.Muted next := by
  have hagrees := State.runAdd_agrees h.store call
  rw [hdone] at hagrees
  have hframe : ∀ state : State, (state.runAdd call).state.Keeps state := by
    intro state
    obtain ⟨later, hrecords, henqueued, -⟩ := state.runAdd_records call
    refine ⟨?_, ?_, (state.runAdd_carried call).dispatches⟩
    · rw [hrecords.queue, henqueued, List.append_nil]
    · cases state.runAdd_emits call with
      | silent houtput htold => exact houtput
  have hloud := hframe loud
  rw [hdone] at hloud
  exact ⟨_, Outcome.eq_done hagrees.failure, h.of_keeps hagrees.store (hframe quiet) hloud⟩

end State.Muted

/-- A print that is complete has printed one value, and done nothing else that a call can see. -/
theorem State.runPrint_done {state next : State} {listener : Option Listener} {call : PendingCall}
    (h : state.runPrint listener call = .done next) :
    next.store = state.store ∧ next.queue = state.queue ∧ next.bindings = state.bindings ∧
      next.dispatches = state.dispatches ∧ next.output.size = state.output.size + 1 := by
  rw [State.runPrint] at h
  split at h
  · next source rest hbindings =>
    split at h
    · next value hread =>
      cases listener with
      | none =>
        obtain rfl := congrArg Outcome.state h
        exact ⟨rfl, rfl, rfl, rfl, Array.size_push value⟩
      | some listener =>
        simp only [State.emit] at h
        split at h
        · obtain rfl := congrArg Outcome.state h
          exact ⟨rfl, rfl, rfl, rfl, Array.size_push value⟩
        · cases h
    · cases h
  · cases h

/-! ## Runs -/

/-- A state between two bodies and its muted counterpart: no binding is open in either. -/
structure State.MutedAtRest (quiet loud : State) : Prop extends quiet.Muted loud where
  quietBindings : quiet.bindings = []
  loudBindings : loud.bindings = []

/-- No body makes bindings behind its last `call`. -/
def Program.LeavesNoBinding (program : Program) : Prop :=
  ∀ f ∈ program.functions, Trace.openBindings f.body = []

instance (program : Program) : Decidable program.LeavesNoBinding :=
  inferInstanceAs (Decidable (∀ f ∈ program.functions, Trace.openBindings f.body = []))

namespace Setup

variable {setup : Setup} {quiet loud next : State} {call : PendingCall}

/-- A dispatch that is free to begin stays so with fewer dispatches before it. -/
theorem exhausted_silenced (h : quiet.Muted loud) (hfree : setup.exhausted loud = false) :
    setup.silenced.exhausted quiet = false := by
  have hfewer : quiet.dispatches ≤ loud.dispatches := Nat.le.intro h.dispatches
  have hsame : setup.silenced.limit = setup.limit := rfl
  simp only [exhausted, Bool.and_eq_false_iff, decide_eq_false_iff_not, hsame] at hfree ⊢
  omega

/-- A print has no counterpart in the silenced run. -/
theorem silenced_print (h : quiet.MutedAtRest loud) {before after : Queue}
    (hselects : loud.Selects before call after) (hprints : call.prints = true)
    (hdone : setup.dispatch call (loud.taking before after) = .done next) :
    quiet.MutedAtRest next := by
  cases hlimit : setup.exhausted (loud.taking before after) with
  | true =>
    rw [dispatch_of_exhausted call hlimit] at hdone
    cases hdone
  | false =>
    have hname : Intrinsic.ofName? call.function = some .print :=
      Intrinsic.ofName?_eq_some_iff.2 (of_decide_eq_true hprints)
    rw [dispatch_of_not_exhausted call hlimit, hname] at hdone
    obtain ⟨hstore, hqueue, hbindings, hdispatches, houtput⟩ := State.runPrint_done hdone
    rw [State.taking_eq] at hstore hqueue hbindings hdispatches houtput
    refine ⟨⟨h.store.trans hstore.symm, ?_, h.output, ?_⟩, h.quietBindings,
      hbindings.trans h.loudBindings⟩
    · have hfirst : Queue.silenced (call :: after) = Queue.silenced after :=
        List.filter_cons_of_neg (by rw [hprints]; decide)
      rw [h.queue, hselects.queue, hqueue, Queue.silenced_append, hfirst]
      exact (Queue.silenced_append before after).symm
    · have hcount := h.dispatches
      rw [hdispatches, houtput]
      show quiet.dispatches + (loud.output.size + 1) = loud.dispatches + 1
      omega

section Closed

variable (hclosed : setup.program.LeavesNoBinding)
include hclosed

/-- A function that is complete is complete in the silenced program. -/
theorem silenced_runFunction (h : quiet.MutedAtRest loud) {name : String}
    (hdone : setup.runFunction name loud = .done next) :
    ∃ muted, setup.silenced.runFunction name quiet = .done muted ∧ muted.MutedAtRest next := by
  cases hfind : setup.program.find? name with
  | none =>
    rw [runFunction, Program.function, hfind] at hdone
    cases hdone
  | some f =>
    have hfind' : setup.silenced.program.find? name = some f.silenced := by
      have hsilenced := setup.program.find?_silenced name
      rw [hfind] at hsilenced
      exact hsilenced
    rw [runFunction_of_find? hfind] at hdone
    have hloud : (loud.note (.entered name)).bindings = [] := h.loudBindings
    have hopen : (quiet.note (.entered name)).bindings =
        mutedBindings f.body (loud.note (.entered name)).bindings := by
      rw [hloud, mutedBindings_nil]
      exact h.quietBindings
    obtain ⟨muted, hmuted, hrelated, hbindings⟩ :=
      (h.toMuted.of_note (.entered name) (.entered name)).body hopen hdone
    have hlast : next.bindings = [] := by
      rw [bindings_of_done hloud hdone]
      exact hclosed f (List.mem_of_find?_eq_some hfind)
    refine ⟨muted, ?_, hrelated, hbindings.trans hlast, hlast⟩
    rw [runFunction_of_find? hfind']
    exact hmuted

/-- A dispatch of any call but a print is carried out alike. -/
theorem silenced_dispatch (h : quiet.MutedAtRest loud) (hprints : call.prints = false)
    (hdone : setup.dispatch call loud = .done next) :
    ∃ muted, setup.silenced.dispatch call quiet = .done muted ∧ muted.MutedAtRest next := by
  cases hlimit : setup.exhausted loud with
  | true =>
    rw [dispatch_of_exhausted call hlimit] at hdone
    cases hdone
  | false =>
    have hopening : (quiet.opening call).MutedAtRest (loud.opening call) :=
      ⟨h.opening call, h.quietBindings, h.loudBindings⟩
    rw [dispatch_of_not_exhausted call hlimit] at hdone
    rw [dispatch_of_not_exhausted call (exhausted_silenced h.toMuted hlimit)]
    cases hname : Intrinsic.ofName? call.function with
    | none =>
      simp only [hname] at hdone
      exact silenced_runFunction hclosed hopening hdone
    | some intrinsic =>
      simp only [hname] at hdone
      cases intrinsic with
      | print =>
        have hother := of_decide_eq_false hprints
        exact absurd (Intrinsic.ofName?_eq_some_iff.1 hname) hother
      | add =>
        obtain ⟨muted, hmuted, hrelated⟩ :=
          (hopening.toMuted.of_note (.intrinsic call) (.intrinsic call)).runAdd hdone
        have hquiet := setup.silenced.runIntrinsic_bindings .add call (quiet.opening call)
        have hloud := setup.runIntrinsic_bindings .add call (loud.opening call)
        rw [runIntrinsic] at hquiet hloud
        simp only [hmuted] at hquiet
        rw [runIntrinsic] at hdone
        simp only [hdone] at hloud
        exact ⟨muted, hmuted, hrelated, hquiet.trans h.quietBindings, hloud.trans h.loudBindings⟩

/-- A step after which the run goes on is a step of the silenced run, or a print. -/
theorem silenced_drain (h : quiet.MutedAtRest loud) (hdrain : setup.drain loud = .draining next) :
    quiet.MutedAtRest next ∨
      ∃ muted, setup.silenced.drain quiet = .draining muted ∧ muted.MutedAtRest next := by
  have hstep := setup.drained loud
  rw [hdrain] at hstep
  generalize hnext : Run.draining next = run at hstep
  cases hstep with
  | halted hqueue => cases hnext
  | stuck hqueue hnone => cases hnext
  | faulty hqueue hbefore hcall => cases hnext
  | @dispatched before after call hqueue hbefore hcall =>
    have hselects : loud.Selects before call after := ⟨hqueue, hbefore, hcall⟩
    have hdone : setup.dispatch call (loud.taking before after) = .done next := by
      cases hdispatch : setup.dispatch call (loud.taking before after) with
      | mk state failure =>
        rw [hdispatch] at hnext
        cases failure with
        | none =>
          obtain rfl := Run.draining.inj hnext
          rfl
        | some failure => cases hnext
    cases hprints : call.prints with
    | true => exact Or.inl (silenced_print h hselects hprints hdone)
    | false =>
      have hselected := h.selects hselects hprints
      have htaking : (quiet.taking (Queue.silenced before) (Queue.silenced after)).MutedAtRest
          (loud.taking before after) := by
        refine ⟨h.taking before after, ?_, ?_⟩
        · rw [State.taking_eq]
          exact h.quietBindings
        · rw [State.taking_eq]
          exact h.loudBindings
      obtain ⟨muted, hmuted, hrelated⟩ := silenced_dispatch hclosed htaking hprints hdone
      refine Or.inr ⟨muted, ?_, hrelated⟩
      rw [(Drained.dispatched hselected.queue hselected.ahead hselected.eligible).drain_eq, hmuted]
      rfl

omit hclosed in
/-- A step that halts the run halts the silenced run. -/
theorem silenced_halt (h : quiet.MutedAtRest loud) {outcome : Outcome}
    (hdrain : setup.drain loud = .ended outcome) (hphase : outcome.state.phase = .halted) :
    setup.silenced.drain quiet = .halt quiet ∧ outcome.state = loud.move .halted := by
  have hstep := setup.drained loud
  rw [hdrain] at hstep
  generalize hnext : Run.ended outcome = run at hstep
  cases hstep with
  | halted hqueue =>
    obtain rfl := Run.ended.inj hnext
    have hempty : quiet.queue = [] := by
      rw [h.queue, hqueue]
      rfl
    exact ⟨(Drained.halted hempty).drain_eq, rfl⟩
  | stuck hqueue hnone =>
    obtain rfl := Run.ended.inj hnext
    cases hphase
  | faulty hqueue hbefore hcall =>
    obtain rfl := Run.ended.inj hnext
    cases hphase
  | @dispatched before after call hqueue hbefore hcall =>
    -- a dispatch that ends the run fails
    cases hdispatch : setup.dispatch call (loud.taking before after) with
    | mk state failure =>
      rw [hdispatch] at hnext
      cases failure with
      | none => cases hnext
      | some failure =>
        obtain rfl := Run.ended.inj hnext
        cases hphase

/-- A run that halts halts when silenced, in no more steps. -/
theorem silenced_advance {steps : Nat} {outcome : Outcome} (h : quiet.MutedAtRest loud)
    (hend : setup.advance steps (.draining loud) = .ended outcome)
    (hphase : outcome.state.phase = .halted) :
    ∃ fewer last, fewer ≤ steps ∧ setup.silenced.advance fewer (.draining quiet) = .halt last ∧
      last.MutedAtRest outcome.state := by
  induction steps generalizing quiet loud with
  | zero => cases hend
  | succ steps ih =>
    rw [advance] at hend
    cases hdrain : setup.drain loud with
    | ended other =>
      rw [hdrain, advance_ended] at hend
      obtain rfl := Run.ended.inj hend
      obtain ⟨hhalt, hlast⟩ := silenced_halt h hdrain hphase
      refine ⟨1, quiet, Nat.le_add_left 1 steps, hhalt, ?_⟩
      rw [hlast]
      exact ⟨⟨h.store, h.queue, h.output, h.dispatches⟩, h.quietBindings, h.loudBindings⟩
    | draining next =>
      rw [hdrain] at hend
      rcases silenced_drain hclosed h hdrain with hprinted | ⟨muted, hmuted, hrelated⟩
      · obtain ⟨fewer, last, hfewer, hhalt, hlast⟩ := ih hprinted hend
        exact ⟨fewer, last, Nat.le_succ_of_le hfewer, hhalt, hlast⟩
      · obtain ⟨fewer, last, hfewer, hhalt, hlast⟩ := ih hrelated hend
        refine ⟨fewer + 1, last, Nat.succ_le_succ hfewer, ?_, hlast⟩
        rw [advance, hmuted]
        exact hhalt

/-- The entry function of a new machine, if it is complete, is complete when silenced. -/
theorem silenced_start {journal : Array Event} (other : Array Event)
    (hstart : setup.start (.initial journal) = .draining loud) :
    ∃ muted, setup.silenced.start (.initial other) = .draining muted ∧
      muted.MutedAtRest loud := by
  rw [setup.start_eq_afterEntry journal] at hstart
  rw [setup.silenced.start_eq_afterEntry other]
  have hnew : ((State.initial other).move .running).MutedAtRest
      ((State.initial journal).move .running) := ⟨⟨rfl, rfl, rfl, rfl⟩, rfl, rfl⟩
  cases hentry : setup.runFunction entryName ((State.initial journal).move .running) with
  | mk state failure =>
    rw [hentry] at hstart
    cases failure with
    | some failure => cases hstart
    | none =>
      obtain rfl := Run.draining.inj hstart
      obtain ⟨muted, hmuted, hrelated⟩ := silenced_runFunction hclosed hnew hentry
      refine ⟨muted.move .draining, ?_, ?_⟩
      · rw [hmuted]
        rfl
      · exact ⟨⟨hrelated.store, hrelated.queue, hrelated.output, hrelated.dispatches⟩,
          hrelated.quietBindings, hrelated.loudBindings⟩

end Closed

/-- Prints make no difference to what a run computes. If no body makes bindings behind its last
`call` and the run halts, the run of the silenced program halts too, with the same store, with
nothing printed and no binding open, and with one dispatch less for each value printed. -/
theorem silenced_run_halts_alike (setup : Setup) (hclosed : setup.program.LeavesNoBinding)
    (journal other : Array Event) {steps : Nat} {outcome : Outcome}
    (hrun : setup.run steps (.initial journal) = some outcome)
    (hphase : outcome.state.phase = .halted) :
    ∃ fewer quiet, fewer ≤ steps ∧
      setup.silenced.run fewer (.initial other) = some quiet ∧ quiet.Halted ∧
      quiet.state.store = outcome.state.store ∧ quiet.state.output = #[] ∧
      quiet.state.bindings = [] ∧
      quiet.state.dispatches + outcome.state.output.size = outcome.state.dispatches := by
  have hend := run_eq_some_iff.1 hrun
  cases hstart : setup.start (.initial journal) with
  | ended first =>
    -- the entry function failed, and then the run did not halt
    rw [hstart, advance_ended] at hend
    obtain rfl := Run.ended.inj hend
    obtain ⟨entry, -, ⟨-, hstarted⟩ | ⟨failure, -, hstarted⟩⟩ := setup.start_initial journal
    · rw [hstart] at hstarted
      cases hstarted
    · rw [hstart] at hstarted
      obtain rfl := Run.ended.inj hstarted
      cases hphase
  | draining loud =>
    rw [hstart] at hend
    obtain ⟨muted, hmuted, hrelated⟩ := silenced_start hclosed other hstart
    obtain ⟨fewer, last, hfewer, hhalt, hlast⟩ := silenced_advance hclosed hrelated hend hphase
    rw [← hmuted] at hhalt
    have hquiet := run_eq_some_iff.2 hhalt
    have hsettled := setup.silenced.settled_advance other fewer
    rw [hhalt] at hsettled
    exact ⟨fewer, _, hfewer, hquiet, hsettled.halted rfl, hlast.store, hlast.output,
      hlast.quietBindings, hlast.dispatches⟩

/-- Without its two prints the machine needs one dispatch of three, and leaves the same store. -/
theorem silenced_run_halts_alike_late_assignment :
    lateAssignment.program.LeavesNoBinding ∧
      ∃ outcome, lateAssignment.run 4 (.initial #[]) = some outcome ∧
        outcome.state.output = #[.text "7", .text "7"] ∧
        ∃ fewer quiet, lateAssignment.silenced.run fewer (.initial #[]) = some quiet ∧
          quiet.Halted ∧ quiet.state.store = ⟨[⟨"a", "int", .text "7", true, false⟩]⟩ ∧
          quiet.state.dispatches = 1 := by
  have hclosed : lateAssignment.program.LeavesNoBinding := by decide
  obtain ⟨outcome, hrun, hphase, houtput, hstore, hcount⟩ : ∃ outcome,
      lateAssignment.run 4 (.initial #[]) = some outcome ∧ outcome.state.phase = .halted ∧
        outcome.state.output = #[.text "7", .text "7"] ∧
        outcome.state.store = ⟨[⟨"a", "int", .text "7", true, false⟩]⟩ ∧
        outcome.state.dispatches = 3 := ⟨_, rfl, rfl, rfl, rfl, rfl⟩
  obtain ⟨fewer, quiet, -, hquiet, hhalted, hsame, -, -, hdispatches⟩ :=
    silenced_run_halts_alike lateAssignment hclosed #[] #[] hrun hphase
  refine ⟨hclosed, outcome, hrun, houtput, fewer, quiet, hquiet, hhalted, hsame.trans hstore, ?_⟩
  rw [houtput, hcount] at hdispatches
  exact Nat.add_right_cancel hdispatches

end Setup

end Dataflow
