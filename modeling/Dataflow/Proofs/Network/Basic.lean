import Dataflow.Proofs.History

/-!
# Networks of intrinsic calls

A network is a queue of calls of `add` with two inputs and an output and of `print` with an input,
over declared variables none of which is reserved. Carrying out such a call depends on the values
of its inputs only (`Node.yield_congr`): it yields a sum for its output, or a value to print, or a
fault. No call of a network queues another, so draining one comes to an end; `Drains` says how
(`Setup.exists_drains`), call by call, and is what the theory of networks is proved from.
-/

set_option autoImplicit false

namespace Dataflow

/-! ## Calls of a network -/

namespace PendingCall

/-- The variables that a call is bound to in one direction. -/
def variablesOf (direction : Direction) (call : PendingCall) : List String :=
  (call.bindings.filter fun b => b.direction = direction).map Binding.name

/-- The variables that a call reads. -/
abbrev inputs : PendingCall → List String := variablesOf .input

/-- The variables that a call writes. -/
abbrev outputs : PendingCall → List String := variablesOf .output

theorem mem_variablesOf_iff {direction : Direction} {call : PendingCall} {name : String} :
    name ∈ call.variablesOf direction ↔
      ∃ b ∈ call.bindings, b.direction = direction ∧ b.name = name := by
  simp [variablesOf, and_assoc]

end PendingCall

/-- An addition or a print with as many variables as it needs. -/
inductive Node where
  | add (left right target : String)
  | print (source : String)
  deriving DecidableEq, Repr

namespace Node

/-- The call of a node. -/
def call : Node → PendingCall
  | add left right target =>
    ⟨Intrinsic.add.name, [⟨left, .input⟩, ⟨right, .input⟩, ⟨target, .output⟩]⟩
  | print source => ⟨Intrinsic.print.name, [⟨source, .input⟩]⟩

/-- The variable that a node writes. -/
def target? : Node → Option String
  | add _ _ target => some target
  | print _ => none

theorem inputs_call_add (left right target : String) :
    (add left right target).call.inputs = [left, right] := rfl

theorem inputs_call_print (source : String) : (print source).call.inputs = [source] := rfl

/-- The outputs of a call of a node are its target. -/
theorem outputs_call (node : Node) : node.call.outputs = node.target?.toList := by
  cases node with
  | add left right target => rfl
  | print source => rfl

/-- Different nodes have different calls. -/
theorem call_injective {node other : Node} (h : node.call = other.call) : node = other := by
  cases node with
  | add left right target =>
    cases other with
    | add left' right' target' =>
      simp only [call, PendingCall.mk.injEq, List.cons.injEq, Binding.mk.injEq] at h
      obtain ⟨-, ⟨rfl, -⟩, ⟨rfl, -⟩, ⟨rfl, -⟩, -⟩ := h
      rfl
    | print source => simp [call] at h
  | print source =>
    cases other with
    | add left right target => simp [call] at h
    | print source' =>
      simp only [call, PendingCall.mk.injEq, List.cons.injEq, Binding.mk.injEq] at h
      obtain ⟨-, ⟨rfl, -⟩, -⟩ := h
      rfl

end Node

/-- The state holds a network: its calls are nodes over declared variables, and no variable is
reserved. -/
structure State.IsNetwork (state : State) : Prop where
  unbound : state.store.Unbound
  nodes : ∀ call ∈ state.queue, ∃ node : Node, node.call = call
  declared : ∀ call ∈ state.queue, ∀ b ∈ call.bindings, b.name ∈ state.store.names

/-- The state of a machine that is about to drain the calls of nodes. -/
def State.ofNodes (store : Store) (nodes : List Node) : State :=
  { State.initial #[] with phase := .draining, store, queue := nodes.map Node.call }

theorem State.isNetwork_ofNodes {store : Store} {nodes : List Node} (hunbound : store.Unbound)
    (hdeclared : ∀ node ∈ nodes, ∀ b ∈ node.call.bindings, b.name ∈ store.names) :
    (State.ofNodes store nodes).IsNetwork := by
  refine ⟨hunbound, ?_, ?_⟩
  · intro call hcall
    obtain ⟨node, -, rfl⟩ := List.mem_map.1 hcall
    exact ⟨node, rfl⟩
  · intro call hcall
    obtain ⟨node, hnode, rfl⟩ := List.mem_map.1 hcall
    exact hdeclared node hnode

/-- The listener, if there is one, takes every value. -/
def Setup.Unrefused (setup : Setup) : Prop :=
  ∀ listener, setup.listener = some listener → ∀ told value, listener.refuses told value = none

/-- No functions, no limit, and a listener that takes every value. -/
def Setup.plain : Setup := ⟨⟨[]⟩, 0, some .willing⟩

theorem Setup.unrefused_plain : Setup.plain.Unrefused := by
  intro listener hlistener told value
  obtain rfl := Option.some.inj hlistener
  rfl

/-! ## Eligibility in a network -/

section Eligibility

variable {store : Store} {call : PendingCall}

/-- A call over declared variables is eligible when its inputs are ready. -/
theorem PendingCall.eligible_eq_ok_true_iff (hunbound : store.Unbound)
    (hdeclared : ∀ b ∈ call.bindings, b.name ∈ store.names) :
    call.eligible store = .ok true ↔ ∀ name ∈ call.inputs, store.Ready name := by
  rw [PendingCall.eligible, eligibleBindings_eq_ok_true_iff]
  constructor
  · intro h name hname
    obtain ⟨b, hb, hinput, rfl⟩ := mem_variablesOf_iff.1 hname
    obtain ⟨v, hfind, -, hready⟩ := h b hb
    exact ⟨v, hfind, hready hinput⟩
  · intro h b hb
    obtain ⟨v, hfind⟩ := (Store.exists_find?_iff store b.name).2 (hdeclared b hb)
    refine ⟨v, hfind, hunbound v (Store.mem_of_find? hfind), ?_⟩
    intro hinput
    obtain ⟨w, hw, hready⟩ := h b.name (mem_variablesOf_iff.2 ⟨b, hb, hinput, rfl⟩)
    rw [hfind] at hw
    rwa [Option.some.inj hw]

/-- Checking a call over declared variables does not fault. -/
theorem PendingCall.eligible_ne_error (hdeclared : ∀ b ∈ call.bindings, b.name ∈ store.names)
    (fault : Fault) : call.eligible store ≠ .error fault := by
  intro h
  obtain ⟨b, hb, hnone, -⟩ := exists_of_eligibleBindings_eq_error h
  obtain ⟨v, hfind⟩ := (Store.exists_find?_iff store b.name).2 (hdeclared b hb)
  rw [hnone] at hfind
  cases hfind

/-- A call that is not eligible has an input that is not ready. -/
theorem PendingCall.exists_not_ready (hunbound : store.Unbound)
    (h : call.eligible store = .ok false) : ∃ name ∈ call.inputs, ¬ store.Ready name := by
  obtain ⟨b, hb, hinput, v, hfind, hready⟩ := waiting_of_ineligible hunbound h
  refine ⟨b.name, mem_variablesOf_iff.2 ⟨b, hb, hinput, rfl⟩, ?_⟩
  rintro ⟨w, hw, hw'⟩
  rw [hfind] at hw
  rw [← Option.some.inj hw, hready] at hw'
  cases hw'

end Eligibility

/-! ## What a node yields -/

/-- What carrying out a node comes to: a sum for its target, or a value to print. -/
inductive Yield where
  | sum (target : String) (n : Int)
  | printed (value : Value)
  deriving DecidableEq, Repr

namespace Yield

/-- The store behind a yield. -/
def store (store : Store) : Yield → Store
  | sum target n => store.modify target fun v => { v with value := .int n, ready := true }
  | printed _ => store

/-- The values that a yield prints. -/
def values : Yield → List Value
  | sum _ _ => []
  | printed value => [value]

/-- The variable that a yield writes. -/
def target? : Yield → Option String
  | sum target _ => some target
  | printed _ => none

/-- Only the target of a yield changes. -/
theorem find?_store_of_ne {yielded : Yield} {name : String} (h : yielded.target? ≠ some name)
    (store : Store) : (yielded.store store).find? name = store.find? name := by
  cases yielded with
  | printed value => rfl
  | sum target n =>
    have hne : name ≠ target := by
      intro heq
      exact h (congrArg some heq.symm)
    rw [Yield.store, Store.find?_modify, if_neg hne]
    intro v
    rfl

/-- The target of a yield holds its sum and is ready. -/
theorem find?_store_target (target : String) (n : Int) (store : Store) :
    ((sum target n).store store).find? target =
      (store.find? target).map fun v => { v with value := .int n, ready := true } := by
  rw [Yield.store, Store.find?_modify, if_pos rfl]
  intro v
  rfl

theorem names_store (yielded : Yield) (store : Store) :
    (yielded.store store).names = store.names := by
  cases yielded with
  | printed value => rfl
  | sum target n => exact Store.names_modify store target fun _ => rfl

theorem unbound_store (yielded : Yield) {store : Store} (h : store.Unbound) :
    (yielded.store store).Unbound := by
  cases yielded with
  | printed value => exact h
  | sum target n => exact h.modify target fun _ => rfl

/-- What is ready behind a yield: what was, and its target. -/
theorem ready_store_iff (yielded : Yield) {store : Store} (name : String)
    (hdeclared : ∀ target, yielded.target? = some target → target ∈ store.names) :
    (yielded.store store).Ready name ↔ store.Ready name ∨ yielded.target? = some name := by
  by_cases htarget : yielded.target? = some name
  · cases yielded with
    | printed value => cases htarget
    | sum target n =>
      obtain rfl := Option.some.inj htarget
      obtain ⟨v, hfind⟩ := (Store.exists_find?_iff store target).2 (hdeclared target rfl)
      -- an undeclared target would not become ready: nothing is written then
      have hready : ((sum target n).store store).Ready target := by
        refine ⟨{ v with value := .int n, ready := true }, ?_, rfl⟩
        rw [find?_store_target, hfind]
        rfl
      exact ⟨fun _ => Or.inr rfl, fun _ => hready⟩
  · rw [Store.Ready, find?_store_of_ne htarget]
    constructor
    · exact Or.inl
    · rintro (hready | heq)
      · exact hready
      · exact absurd heq htarget

end Yield

namespace Node

/-- What a node yields in a store. -/
def yield (store : Store) : Node → Except Fault Yield
  | add left right target => (store.sum left right).map (Yield.sum target)
  | print source => (store.read source).map Yield.printed

/-- A node yields for its target. -/
theorem target?_yield {node : Node} {store : Store} {yielded : Yield}
    (h : node.yield store = .ok yielded) : yielded.target? = node.target? := by
  cases node with
  | add left right target =>
    rw [yield] at h
    cases hsum : store.sum left right with
    | error fault => simp [hsum, Except.map] at h
    | ok n =>
      simp only [hsum, Except.map, Except.ok.injEq] at h
      rw [← h]
      rfl
  | print source =>
    rw [yield] at h
    cases hread : store.read source with
    | error fault => simp [hread, Except.map] at h
    | ok value =>
      simp only [hread, Except.map, Except.ok.injEq] at h
      rw [← h]
      rfl

/-- A yield writes an output of the call. -/
theorem mem_outputs_of_yield {node : Node} {store : Store} {yielded : Yield} {target : String}
    (h : node.yield store = .ok yielded) (htarget : yielded.target? = some target) :
    target ∈ node.call.outputs := by
  rw [outputs_call, ← target?_yield h, htarget]
  exact List.mem_singleton.2 rfl

/-- What is ready behind a node over declared variables: what was, and its target. -/
theorem ready_yield_iff {node : Node} {store : Store} {yielded : Yield}
    (hdeclared : ∀ b ∈ node.call.bindings, b.name ∈ store.names)
    (h : node.yield store = .ok yielded) (name : String) :
    (yielded.store store).Ready name ↔ store.Ready name ∨ node.target? = some name := by
  rw [yielded.ready_store_iff, target?_yield h]
  intro target htarget
  have hmem := mem_outputs_of_yield h htarget
  obtain ⟨b, hb, -, rfl⟩ := PendingCall.mem_variablesOf_iff.1 hmem
  exact hdeclared b hb

/-- What a node yields depends on its inputs only. -/
theorem yield_congr {node : Node} {store store' : Store}
    (h : ∀ name ∈ node.call.inputs, store'.find? name = store.find? name) :
    node.yield store' = node.yield store := by
  cases node with
  | print source =>
    have hsource := h source (by simp [inputs_call_print])
    simp only [yield, Store.read, Store.get, hsource]
  | add left right target =>
    have hleft := h left (by simp [inputs_call_add])
    have hright := h right (by simp [inputs_call_add])
    simp only [yield, Store.sum, Store.operand, Store.read, Store.get, hleft, hright]

end Node

/-! ## Carrying out a node -/

/-- The calls that were dispatched, in order. -/
def State.begun (state : State) : List PendingCall :=
  state.journal.toList.filterMap Event.begun?

/-- What carrying out a node does to a state, where `rest` is queued besides it. -/
structure Fired (node : Node) (yielded : Yield) (rest : Queue) (state next : State) : Prop where
  store : next.store = yielded.store state.store
  queue : next.queue = rest
  output : next.output.toList = state.output.toList ++ yielded.values
  dispatches : next.dispatches = state.dispatches + 1
  begun : next.begun = state.begun ++ [node.call]

/-- Scanning records no dispatch. -/
theorem State.begun_noteSkipped (state : State) (skipped : List PendingCall) :
    (state.noteSkipped skipped).begun = state.begun := by
  have hskipped : (skipped.map Event.skipped).filterMap Event.begun? = [] := by
    rw [List.filterMap_map, List.filterMap_eq_nil_iff]
    intro call hcall
    rfl
  rw [State.noteSkipped_eq, State.begun, State.begun]
  simp only [Array.toList_append, List.filterMap_append, hskipped, List.append_nil]

/-- Changing the phase records no dispatch. -/
theorem State.begun_move (state : State) (phase : Phase) :
    (state.move phase).begun = state.begun := by
  simp [State.begun, State.move, State.note, Event.begun?]

theorem Fired.of_taking {node : Node} {yielded : Yield} {rest before after : Queue}
    {state next : State} (h : Fired node yielded rest (state.taking before after) next) :
    Fired node yielded rest state next := by
  obtain ⟨hstore, hqueue, houtput, hdispatches, hbegun⟩ := h
  have hsame : (state.taking before after).begun = state.begun := state.begun_noteSkipped before
  rw [hsame] at hbegun
  rw [State.taking_eq] at hstore houtput hdispatches
  exact ⟨hstore, hqueue, houtput, hdispatches, hbegun⟩

/-- An addition writes the sum. -/
theorem State.runAdd_node (state : State) {left right target : String} {n : Int}
    (hsum : state.store.sum left right = .ok n) (htarget : target ∈ state.store.names) :
    state.runAdd (Node.add left right target).call =
      .done ({ state with store := (Yield.sum target n).store state.store }.note
        (.wrote target (.int n) true)) := by
  have hwrite : state.store.write target (.int n) true =
      .ok ((Yield.sum target n).store state.store) :=
    Store.write_eq_ok_iff.2 ⟨htarget, rfl⟩
  simp only [State.runAdd, Node.call, hsum, State.write, hwrite]

theorem State.runAdd_faulty_node (state : State) {left right target : String} {fault : Fault}
    (hsum : state.store.sum left right = .error fault) :
    state.runAdd (Node.add left right target).call = .stopped state (.fault fault) := by
  simp only [State.runAdd, Node.call, hsum]

/-- A print adds the value to the output, if it is not refused. -/
theorem State.runPrint_node (state : State) {listener : Option Listener} {source : String}
    {value : Value}
    (hlistener : ∀ l, listener = some l → ∀ told value, l.refuses told value = none)
    (hread : state.store.read source = .ok value) :
    ∃ told, state.runPrint listener (Node.print source).call =
      .done { state with output := state.output.push value, told } := by
  cases listener with
  | none =>
    refine ⟨state.told, ?_⟩
    simp only [State.runPrint, Node.call, hread, State.emit]
  | some l =>
    refine ⟨state.told.push value, ?_⟩
    simp only [State.runPrint, Node.call, hread, State.emit, hlistener l rfl]

theorem State.runPrint_faulty_node (state : State) (listener : Option Listener) {source : String}
    {fault : Fault} (hread : state.store.read source = .error fault) :
    state.runPrint listener (Node.print source).call = .stopped state (.fault fault) := by
  simp only [State.runPrint, Node.call, hread]

namespace Setup

theorem not_exhausted {setup : Setup} (hlimit : setup.limit = 0) (state : State) :
    setup.exhausted state = false := by
  rw [exhausted, hlimit]
  rfl

/-- A node over declared variables does what it yields. -/
theorem dispatch_node {setup : Setup} (hlimit : setup.limit = 0) (hlistener : setup.Unrefused)
    {node : Node} {state : State} {yielded : Yield}
    (hdeclared : ∀ b ∈ node.call.bindings, b.name ∈ state.store.names)
    (hyield : node.yield state.store = .ok yielded) :
    ∃ next, setup.dispatch node.call state = .done next ∧
      Fired node yielded state.queue state next := by
  rw [dispatch_of_not_exhausted node.call (not_exhausted hlimit state)]
  cases node with
  | add left right target =>
    cases hsum : state.store.sum left right with
    | error fault => simp [Node.yield, hsum, Except.map] at hyield
    | ok n =>
      simp only [Node.yield, hsum, Except.map, Except.ok.injEq] at hyield
      subst hyield
      -- the target must be declared for the write to succeed
      have htarget : target ∈ state.store.names :=
        hdeclared ⟨target, .output⟩ (by simp [Node.call])
      refine ⟨_, State.runAdd_node _ hsum htarget, rfl, rfl, ?_, rfl, ?_⟩
      · simp [Yield.values, State.note, State.opening]
      · simp [State.begun, State.note, State.opening, Event.begun?]
  | print source =>
    cases hread : state.store.read source with
    | error fault => simp [Node.yield, hread, Except.map] at hyield
    | ok value =>
      simp only [Node.yield, hread, Except.map, Except.ok.injEq] at hyield
      subst hyield
      obtain ⟨told, hprint⟩ := State.runPrint_node
        ((state.opening (Node.print source).call).note (.intrinsic (Node.print source).call))
        hlistener hread
      refine ⟨_, hprint, rfl, rfl, ?_, rfl, ?_⟩
      · simp [Yield.values, State.note, State.opening]
      · simp [State.begun, State.note, State.opening, Event.begun?]

/-- A node that yields nothing ends in the fault. -/
theorem dispatch_faulty_node {setup : Setup} (hlimit : setup.limit = 0) {node : Node}
    {state : State} {fault : Fault} (hyield : node.yield state.store = .error fault) :
    ∃ next, setup.dispatch node.call state = .stopped next (.fault fault) := by
  rw [dispatch_of_not_exhausted node.call (not_exhausted hlimit state)]
  cases node with
  | add left right target =>
    cases hsum : state.store.sum left right with
    | ok n => simp [Node.yield, hsum, Except.map] at hyield
    | error other =>
      simp only [Node.yield, hsum, Except.map, Except.error.injEq] at hyield
      subst hyield
      exact ⟨_, State.runAdd_faulty_node _ hsum⟩
  | print source =>
    cases hread : state.store.read source with
    | ok value => simp [Node.yield, hread, Except.map] at hyield
    | error other =>
      simp only [Node.yield, hread, Except.map, Except.error.injEq] at hyield
      subst hyield
      exact ⟨_, State.runPrint_faulty_node _ setup.listener hread⟩

end Setup

/-! ## Draining a network -/

/-- How draining a network goes on and ends: one call whose inputs are ready after the other, until
nothing is queued, all calls wait, or one faults. -/
inductive Drains : State → Outcome → Prop where
  | halted {state : State} (hqueue : state.queue = []) :
      Drains state (.done (state.move .halted))
  | stuck {state : State} (hqueue : state.queue ≠ [])
      (hwaiting : ∀ call ∈ state.queue, ∃ name ∈ call.inputs, ¬ state.store.Ready name) :
      Drains state (.stopped ((state.noteSkipped state.queue).move .deadlocked)
        (.fault (.unplaced (.deadlocked state.queue.length))))
  | faulty {state last : State} {before after : Queue} {node : Node} {fault : Fault}
      (hqueue : state.queue = before ++ node.call :: after)
      (hready : ∀ name ∈ node.call.inputs, state.store.Ready name)
      (hyield : node.yield state.store = .error fault) :
      Drains state (.stopped (last.move .failed) (.fault fault))
  | fired {state next : State} {outcome : Outcome} {before after : Queue} {node : Node}
      {yielded : Yield} (hqueue : state.queue = before ++ node.call :: after)
      (hready : ∀ name ∈ node.call.inputs, state.store.Ready name)
      (hyield : node.yield state.store = .ok yielded)
      (hfired : Fired node yielded (before ++ after) state next) (hrest : Drains next outcome) :
      Drains state outcome

/-- Carrying out a node leaves a network. -/
theorem State.IsNetwork.fired {state next : State} {before after : Queue} {node : Node}
    {yielded : Yield} (h : state.IsNetwork) (hqueue : state.queue = before ++ node.call :: after)
    (hfired : Fired node yielded (before ++ after) state next) : next.IsNetwork := by
  have hmem : ∀ call ∈ next.queue, call ∈ state.queue := by
    intro call hcall
    rw [hfired.queue] at hcall
    rw [hqueue, List.perm_middle.mem_iff]
    exact List.mem_cons_of_mem _ hcall
  refine ⟨?_, ?_, ?_⟩
  · rw [hfired.store]
    exact yielded.unbound_store h.unbound
  · intro call hcall
    exact h.nodes call (hmem call hcall)
  · intro call hcall b hb
    rw [hfired.store, yielded.names_store]
    exact h.declared call (hmem call hcall) b hb

namespace Setup

/-- The draining of a network ends. -/
theorem exists_drains {setup : Setup} (hlimit : setup.limit = 0) (hlistener : setup.Unrefused)
    {state : State} (h : state.IsNetwork) :
    ∃ steps outcome, setup.advance steps (.draining state) = .ended outcome ∧
      Drains state outcome := by
  -- every step takes a call out of the queue and none puts one in
  induction hlength : state.queue.length generalizing state with
  | zero =>
    have hqueue := List.eq_nil_of_length_eq_zero hlength
    exact ⟨1, _, (Drained.halted hqueue).drain_eq, .halted hqueue⟩
  | succ length ih =>
    have hstep := setup.drained state
    generalize hnext : setup.drain state = run at hstep
    cases hstep with
    | halted hqueue => exact ⟨1, _, hnext, .halted hqueue⟩
    | stuck hqueue hnone =>
      refine ⟨1, _, hnext, .stuck hqueue ?_⟩
      intro call hcall
      exact PendingCall.exists_not_ready h.unbound (hnone call hcall)
    | @faulty before after call fault hqueue hbefore hcall =>
      have hmem : call ∈ state.queue := by simp [hqueue]
      exact absurd hcall (PendingCall.eligible_ne_error (h.declared call hmem) fault)
    | @dispatched before after call hqueue hbefore hcall =>
      have hmem : call ∈ state.queue := by simp [hqueue]
      obtain ⟨node, rfl⟩ := h.nodes call hmem
      have hdeclared := h.declared node.call hmem
      have hready := (PendingCall.eligible_eq_ok_true_iff h.unbound hdeclared).1 hcall
      -- taking the call out of the queue does not touch the store it was found eligible in
      have hstore : (state.taking before after).store = state.store := by
        rw [State.taking_eq]
      cases hyield : node.yield state.store with
      | error fault =>
        rw [← hstore] at hyield
        obtain ⟨last, hlast⟩ := dispatch_faulty_node hlimit hyield
        rw [hstore] at hyield
        rw [hlast] at hnext
        exact ⟨1, _, hnext, .faulty hqueue hready hyield⟩
      | ok yielded =>
        rw [← hstore] at hyield hdeclared
        obtain ⟨next, hdone, htaken⟩ := dispatch_node hlimit hlistener hdeclared hyield
        rw [hstore] at hyield
        have hfired : Fired node yielded (before ++ after) state next := htaken.of_taking
        rw [hdone] at hnext
        have hshorter : next.queue.length = length := by
          rw [hqueue, List.length_append, List.length_cons] at hlength
          rw [hfired.queue, List.length_append]
          omega
        obtain ⟨steps, outcome, hend, hdrains⟩ := ih (h.fired hqueue hfired) hshorter
        refine ⟨steps + 1, outcome, ?_, .fired hqueue hready hyield hfired hdrains⟩
        rw [advance_succ, step, hnext]
        exact hend

end Setup

end Dataflow
