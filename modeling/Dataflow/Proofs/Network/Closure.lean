import Dataflow.Proofs.Network.Basic

/-!
# Deadlock detection in networks

Which calls of a network are ever dispatched is decided by a least closure: a variable is
`Derivable` when it is ready, or when a queued addition writes it whose two summands are derivable.
Carrying out a call changes the store and the queue and leaves this closure as it is
(`derivable_fired`), and when every call waits, nothing is derivable but what is ready
(`derivable_of_waiting`). So draining dispatches exactly the calls with derivable inputs, and what
is left is a deadlock.

Several additions may share a target, and a target may be ready from the start: the closure speaks
of readiness only, and sums never fail once the ready summands are integers (`IntegerOperands`).

Main statement: `drain_network_closure`.
-/

set_option autoImplicit false

namespace Dataflow

/-! ## The closure -/

/-- The variables that are ready, or that the queued additions make ready. -/
inductive Derivable (store : Store) (queue : Queue) : String → Prop where
  | ready {name : String} (h : store.Ready name) : Derivable store queue name
  | sum {left right target : String} (hcall : (Node.add left right target).call ∈ queue)
      (hleft : Derivable store queue left) (hright : Derivable store queue right) :
      Derivable store queue target

/-- Carrying out a call whose inputs are ready keeps the closure. -/
theorem derivable_fired {store : Store} {before after : Queue} {node : Node} {yielded : Yield}
    (hdeclared : ∀ b ∈ node.call.bindings, b.name ∈ store.names)
    (hready : ∀ name ∈ node.call.inputs, store.Ready name)
    (hyield : node.yield store = .ok yielded) (name : String) :
    Derivable (yielded.store store) (before ++ after) name ↔
      Derivable store (before ++ node.call :: after) name := by
  have hgrows := Node.ready_yield_iff hdeclared hyield
  have hqueue : ∀ call, call ∈ before ++ node.call :: after ↔
      call = node.call ∨ call ∈ before ++ after := by
    intro call
    rw [List.perm_middle.mem_iff, List.mem_cons]
  constructor
  · intro h
    induction h with
    | @ready name h =>
      rcases (hgrows name).1 h with hold | htarget
      · exact .ready hold
      · -- what became ready is the sum of two ready variables
        cases node with
        | print source => cases htarget
        | add left right target =>
          obtain rfl := Option.some.inj htarget
          have hleft := hready left (by simp [Node.inputs_call_add])
          have hright := hready right (by simp [Node.inputs_call_add])
          exact .sum ((hqueue _).2 (Or.inl rfl)) (.ready hleft) (.ready hright)
    | sum hcall _ _ ihleft ihright => exact .sum ((hqueue _).2 (Or.inr hcall)) ihleft ihright
  · intro h
    induction h with
    | @ready name h => exact .ready ((hgrows name).2 (Or.inl h))
    | @sum left right target hcall _ _ ihleft ihright =>
      rcases (hqueue _).1 hcall with hfired | hwaits
      · -- the addition is gone from the queue, but its target is ready now
        obtain rfl := Node.call_injective hfired
        exact .ready ((hgrows target).2 (Or.inr rfl))
      · exact .sum hwaits ihleft ihright

/-- When every call waits for an input, nothing is derivable but what is ready. -/
theorem derivable_of_waiting {store : Store} {queue : Queue}
    (hwaiting : ∀ call ∈ queue, ∃ name ∈ call.inputs, ¬ store.Ready name) (name : String) :
    Derivable store queue name ↔ store.Ready name := by
  constructor
  · intro h
    induction h with
    | ready h => exact h
    | @sum left right target hcall _ _ ihleft ihright =>
      obtain ⟨input, hinput, hnot⟩ := hwaiting _ hcall
      have heither : input = left ∨ input = right := by
        simpa [Node.inputs_call_add] using hinput
      rcases heither with rfl | rfl
      · exact absurd ihleft hnot
      · exact absurd ihright hnot
  · exact Derivable.ready

/-! ## Sums that cannot fail -/

/-- The ready variables that queued additions read hold integers. -/
def IntegerOperands (store : Store) (queue : Queue) : Prop :=
  ∀ left right target, (Node.add left right target).call ∈ queue →
    ∀ name ∈ [left, right], ∀ v, store.find? name = some v → v.ready = true →
      v.value.toInt?.isSome = true

theorem Store.operand_of_find? {store : Store} {name : String} {v : Variable}
    (hfind : store.find? name = some v) (hint : v.value.toInt?.isSome = true) :
    ∃ n, store.operand name = .ok n := by
  obtain ⟨n, hn⟩ := Option.isSome_iff_exists.1 hint
  have hread : store.read name = .ok v.value := read_eq_ok_iff.2 ⟨v, hfind, rfl⟩
  refine ⟨n, ?_⟩
  rw [operand, hread]
  simp only [hn]

/-- A call whose inputs are ready does not fault. -/
theorem IntegerOperands.exists_yield {store : Store} {queue : Queue}
    (h : IntegerOperands store queue) {node : Node} (hcall : node.call ∈ queue)
    (hready : ∀ name ∈ node.call.inputs, store.Ready name) :
    ∃ yielded, node.yield store = .ok yielded := by
  cases node with
  | print source =>
    obtain ⟨v, hfind, -⟩ := hready source (by simp [Node.inputs_call_print])
    have hread : store.read source = .ok v.value := Store.read_eq_ok_iff.2 ⟨v, hfind, rfl⟩
    refine ⟨.printed v.value, ?_⟩
    rw [Node.yield, hread]
    rfl
  | add left right target =>
    have hoperand : ∀ name ∈ [left, right], ∃ n, store.operand name = .ok n := by
      intro name hname
      obtain ⟨v, hfind, hv⟩ := hready name hname
      exact Store.operand_of_find? hfind (h left right target hcall name hname v hfind hv)
    obtain ⟨a, ha⟩ := hoperand left (by simp)
    obtain ⟨b, hb⟩ := hoperand right (by simp)
    refine ⟨.sum target (a + b), ?_⟩
    rw [Node.yield, Store.sum, ha, hb]
    rfl

/-- A sum is an integer, so carrying out a call keeps the sums from failing. -/
theorem IntegerOperands.fired {store : Store} {before after : Queue} {node : Node}
    (h : IntegerOperands store (before ++ node.call :: after)) (yielded : Yield) :
    IntegerOperands (yielded.store store) (before ++ after) := by
  intro left right target hcall name hname v hfind hv
  by_cases htarget : yielded.target? = some name
  · cases yielded with
    | printed value => cases htarget
    | sum written n =>
      -- whatever the target held before, it holds an integer now
      obtain rfl := Option.some.inj htarget
      rw [Yield.find?_store_target] at hfind
      obtain ⟨w, -, rfl⟩ := Option.map_eq_some_iff.1 hfind
      rfl
  · rw [Yield.find?_store_of_ne htarget] at hfind
    have hmem : (Node.add left right target).call ∈ before ++ node.call :: after := by
      rw [List.perm_middle.mem_iff]
      exact List.mem_cons_of_mem _ hcall
    exact h left right target hmem name hname v hfind hv

/-! ## Exhausting a network -/

/-- All inputs of a call are in `R`. -/
def PendingCall.Supplied (R : String → Prop) (call : PendingCall) : Prop :=
  ∀ name ∈ call.inputs, R name

/-- A halt if nothing is left in the queue, and otherwise a deadlock of what is left. -/
def Outcome.Resolved (outcome : Outcome) : Prop :=
  (outcome.state.queue = [] ∧ outcome.failure = none ∧ outcome.state.phase = .halted) ∨
    (outcome.state.queue ≠ [] ∧ outcome.failure =
        some (.fault (.unplaced (.deadlocked outcome.state.queue.length))) ∧
      outcome.state.phase = .deadlocked)

open Classical in
/-- A run that dispatched exactly the calls with inputs in `R`, made exactly `R` ready, and ended
according to what is left. -/
structure Exhausts (R : String → Prop) (state : State) (outcome : Outcome) : Prop where
  begun : ∃ dispatched, outcome.state.begun = state.begun ++ dispatched ∧
    dispatched.Perm (state.queue.filter fun call => call.Supplied R)
  queue : outcome.state.queue = state.queue.filter fun call => ¬ call.Supplied R
  ready : ∀ name, outcome.state.store.Ready name ↔ R name
  ending : outcome.Resolved

/-- A run that ends because every call waits has exhausted what is ready. -/
theorem exhausts_of_waiting {R : String → Prop} {state : State} {outcome : Outcome}
    (hstore : outcome.state.store = state.store) (hqueue : outcome.state.queue = state.queue)
    (hbegun : outcome.state.begun = state.begun)
    (hwaiting : ∀ call ∈ state.queue, ∃ name ∈ call.inputs, ¬ state.store.Ready name)
    (hR : ∀ name, Derivable state.store state.queue name ↔ R name)
    (hending : outcome.Resolved) : Exhausts R state outcome := by
  have hready : ∀ name, state.store.Ready name ↔ R name := by
    intro name
    rw [← hR name, derivable_of_waiting hwaiting]
  have hunsupplied : ∀ call ∈ state.queue, ¬ call.Supplied R := by
    intro call hcall hsupplied
    obtain ⟨name, hname, hnot⟩ := hwaiting call hcall
    exact hnot ((hready name).2 (hsupplied name hname))
  -- nothing more is dispatched, and nothing that is left could have been
  refine ⟨⟨[], ?_, ?_⟩, ?_, ?_, hending⟩
  · rw [hbegun, List.append_nil]
  · rw [List.filter_eq_nil_iff.2]
    intro call hcall
    simpa using hunsupplied call hcall
  · rw [hqueue, eq_comm, List.filter_eq_self]
    intro call hcall
    simpa using hunsupplied call hcall
  · rw [hstore]
    exact hready

/-- A run whose first call has its inputs in `R` and whose rest exhausts `R`. -/
theorem Exhausts.fired {R : String → Prop} {state next : State} {outcome : Outcome}
    {before after : Queue} {node : Node} {yielded : Yield}
    (hqueue : state.queue = before ++ node.call :: after)
    (hfired : Fired node yielded (before ++ after) state next) (hsupplied : node.call.Supplied R)
    (hrest : Exhausts R next outcome) : Exhausts R state outcome := by
  obtain ⟨⟨dispatched, hbegun, hperm⟩, hleft, hready, hending⟩ := hrest
  rw [hfired.queue, List.filter_append] at hperm hleft
  refine ⟨⟨node.call :: dispatched, ?_, ?_⟩, ?_, hready, hending⟩
  · rw [hbegun, hfired.begun, List.append_assoc]
    rfl
  · rw [hqueue, List.filter_append, List.filter_cons_of_pos (by simpa using hsupplied)]
    exact (hperm.cons node.call).trans List.perm_middle.symm
  · rw [hleft, hqueue, List.filter_append, List.filter_cons_of_neg (by simpa using hsupplied)]

/-- Draining a network exhausts it for its closure. -/
theorem Drains.exhausts {R : String → Prop} {state : State} {outcome : Outcome}
    (h : Drains state outcome) (hnetwork : state.IsNetwork)
    (hintegers : IntegerOperands state.store state.queue)
    (hR : ∀ name, Derivable state.store state.queue name ↔ R name) :
    Exhausts R state outcome := by
  -- the closure is the same at every step, so that `R` stays fixed along the run
  induction h with
  | @halted state hqueue =>
    refine exhausts_of_waiting rfl rfl (state.begun_move .halted) ?_ hR (Or.inl ⟨hqueue, rfl, rfl⟩)
    intro call hcall
    rw [hqueue] at hcall
    exact absurd hcall List.not_mem_nil
  | @stuck state hqueue hwaiting =>
    have hkept : ((state.noteSkipped state.queue).move .deadlocked).queue = state.queue :=
      state.queue_noteSkipped state.queue
    refine exhausts_of_waiting ?_ hkept ?_ hwaiting hR (Or.inr ⟨?_, ?_, rfl⟩)
    · exact state.store_noteSkipped state.queue
    · exact (State.begun_move _ .deadlocked).trans (state.begun_noteSkipped state.queue)
    · rw [Outcome.stopped, hkept]
      exact hqueue
    · rw [Outcome.stopped, hkept]
  | @faulty state last before after node fault hqueue hready hyield =>
    -- no call whose inputs are ready can fault
    have hcall : node.call ∈ state.queue := by simp [hqueue]
    obtain ⟨yielded, hok⟩ := hintegers.exists_yield hcall hready
    rw [hok] at hyield
    cases hyield
  | @fired state next outcome before after node yielded hqueue hready hyield hfired hrest ih =>
    have hdeclared := hnetwork.declared node.call (by simp [hqueue])
    have hsupplied : node.call.Supplied R := by
      intro name hname
      exact (hR name).1 (.ready (hready name hname))
    have hnext : IntegerOperands next.store next.queue := by
      rw [hfired.store, hfired.queue]
      rw [hqueue] at hintegers
      exact hintegers.fired yielded
    have hsame : ∀ name, Derivable next.store next.queue name ↔ R name := by
      intro name
      rw [hfired.store, hfired.queue, derivable_fired hdeclared hready hyield, ← hqueue]
      exact hR name
    exact (ih (hnetwork.fired hqueue hfired) hnext hsame).fired hqueue hfired hsupplied

/-! ## The closure is what is dispatched -/

open Classical in
/-- Draining a network whose ready summands are integers ends. It dispatches exactly the queued
calls whose inputs are derivable, makes exactly the derivable variables ready, and halts if that is
all of them; otherwise it reports as many calls deadlocked as have an input that is not derivable.
-/
theorem drain_network_closure (setup : Setup) (state : State) (hlimit : setup.limit = 0)
    (hlistener : setup.Unrefused) (hnetwork : state.IsNetwork)
    (hintegers : IntegerOperands state.store state.queue) :
    ∃ steps outcome dispatched, setup.advance steps (.draining state) = .ended outcome ∧
      outcome.state.begun = state.begun ++ dispatched ∧
      dispatched.Perm
        (state.queue.filter fun call => call.Supplied (Derivable state.store state.queue)) ∧
      outcome.state.queue =
        (state.queue.filter fun call => ¬ call.Supplied (Derivable state.store state.queue)) ∧
      (∀ name, outcome.state.store.Ready name ↔ Derivable state.store state.queue name) ∧
      (outcome.failure = none ∧ outcome.state.phase = .halted ↔
        ∀ call ∈ state.queue, call.Supplied (Derivable state.store state.queue)) ∧
      ((¬ ∀ call ∈ state.queue, call.Supplied (Derivable state.store state.queue)) →
        outcome.failure = some (.fault (.unplaced (.deadlocked (state.queue.countP fun call =>
          ¬ call.Supplied (Derivable state.store state.queue))))) ∧
        outcome.state.phase = .deadlocked) := by
  obtain ⟨steps, outcome, hend, hdrains⟩ := Setup.exists_drains hlimit hlistener hnetwork
  obtain ⟨⟨dispatched, hbegun, hperm⟩, hleft, hready, hending⟩ :=
    hdrains.exhausts hnetwork hintegers fun _ => Iff.rfl
  have hall : outcome.state.queue = [] ↔
      ∀ call ∈ state.queue, call.Supplied (Derivable state.store state.queue) := by
    rw [hleft, List.filter_eq_nil_iff]
    simp
  refine ⟨steps, outcome, dispatched, hend, hbegun, hperm, hleft, hready, ?_, ?_⟩
  · rcases hending with ⟨hempty, hnone, hphase⟩ | ⟨hne, hfault, hphase⟩
    · exact ⟨fun _ => hall.1 hempty, fun _ => ⟨hnone, hphase⟩⟩
    · constructor
      · rintro ⟨hnone, -⟩
        rw [hfault] at hnone
        cases hnone
      · intro hsupplied
        exact absurd (hall.2 hsupplied) hne
  · intro hsome
    rcases hending with ⟨hempty, -, -⟩ | ⟨-, hfault, hphase⟩
    · exact absurd (hall.1 hempty) hsome
    · refine ⟨?_, hphase⟩
      rw [hfault, hleft, List.countP_eq_length_filter]

/-- Two additions share the target `c`, one of which feeds itself, and `d` waits for `e`, which
nothing writes. -/
def knot : State :=
  .ofNodes
    ⟨[⟨"a", "int", .text "1", true, false⟩, ⟨"b", "int", .text "2", true, false⟩,
      .fresh "c" "int", .fresh "d" "int", .fresh "e" "int"]⟩
    [.print "d", .add "a" "b" "c", .add "a" "c" "c", .add "e" "a" "d", .print "c", .print "c"]

/-- In the knot `c` is derivable and `d` is not, so that its draining ends in a deadlock. -/
theorem drain_network_closure_knot :
    Derivable knot.store knot.queue "c" ∧ ¬ Derivable knot.store knot.queue "d" ∧
      ∃ steps outcome, Setup.plain.advance steps (.draining knot) = .ended outcome ∧
        outcome.state.phase = .deadlocked := by
  have hnetwork : knot.IsNetwork := State.isNetwork_ofNodes (by decide) (by decide)
  have hvalues : ∀ v ∈ knot.store.entries, v.ready = true → v.value.toInt?.isSome = true := by
    decide
  have hintegers : IntegerOperands knot.store knot.queue := by
    intro left right target _ name _ v hfind hv
    exact hvalues v (Store.mem_of_find? hfind) hv
  obtain ⟨steps, outcome, dispatched, hend, -, -, -, hready, -, hstuck⟩ :=
    drain_network_closure .plain knot rfl Setup.unrefused_plain hnetwork hintegers
  -- the closure is read off the store in which the run ends
  obtain ⟨last, hlast, hc, hd⟩ :
      ∃ last, Setup.plain.advance 5 (.draining knot) = .ended last ∧
        last.state.store.Ready "c" ∧ ¬ last.state.store.Ready "d" :=
    ⟨_, rfl, by decide, by decide⟩
  obtain rfl := Setup.advance_unique hlast hend
  rw [hready] at hc hd
  refine ⟨hc, hd, steps, last, hend, (hstuck ?_).2⟩
  intro hall
  exact hd (hall (Node.print "d").call (by decide) "d" (by decide))

end Dataflow
