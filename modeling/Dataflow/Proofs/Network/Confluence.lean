import Mathlib.Data.Multiset.Bind
import Mathlib.Data.Multiset.UnionInter
import Dataflow.Proofs.Network.Basic

/-!
# Determinacy of networks

The order of the queue decides in which order the calls of a network are dispatched, and nothing
else as long as every variable is written by at most one call and not ready before. A `Snapshot` is
a state up to the order of its calls and of what it printed, and `Fires` carries out any call whose
inputs are ready, whichever place it has. Two such calls commute: neither writes what the other
reads or writes (`Snapshot.Assigned`), so the relation has the diamond property (`moves_diamond`),
and the snapshots in which draining can end are one and the same (`eq_of_final`).

Main statement: `drain_network_perm`.
-/

set_option autoImplicit false

namespace Dataflow

open Relation

/-! ## Snapshots -/

/-- A state of a network up to order. -/
structure Snapshot where
  store : Store
  waiting : Multiset PendingCall
  printed : Multiset Value
  dispatches : Nat

/-- The snapshot of a state. -/
def State.snapshot (state : State) : Snapshot :=
  ⟨state.store, state.queue, state.output.toList, state.dispatches⟩

/-- The snapshot behind a node, where `rest` waits besides it and `none` is a fault. -/
def Snapshot.fire (snapshot : Snapshot) (node : Node) (rest : Multiset PendingCall) :
    Option Snapshot :=
  match node.yield snapshot.store with
  | .ok yielded =>
    some ⟨yielded.store snapshot.store, rest, snapshot.printed + yielded.values,
      snapshot.dispatches + 1⟩
  | .error _ => none

/-- Carrying out some call whose inputs are ready. -/
inductive Fires : Option Snapshot → Option Snapshot → Prop where
  | call {snapshot : Snapshot} {node : Node} {rest : Multiset PendingCall}
      (hwaiting : snapshot.waiting = node.call ::ₘ rest)
      (hready : ∀ name ∈ node.call.inputs, snapshot.store.Ready name) :
      Fires (some snapshot) (snapshot.fire node rest)

/-- Every variable is written by at most one waiting call, and not ready before. -/
structure Snapshot.Assigned (snapshot : Snapshot) : Prop where
  once : (snapshot.waiting.bind fun call => (call.outputs : Multiset String)).Nodup
  unready : ∀ call ∈ snapshot.waiting, ∀ name ∈ call.outputs, ¬ snapshot.store.Ready name

/-- Carrying out a call in a snapshot where assignments are single. -/
def Moves (first second : Option Snapshot) : Prop :=
  (∀ snapshot, first = some snapshot → snapshot.Assigned) ∧ Fires first second

/-! ## Independent calls -/

/-- Writing different variables commutes. -/
theorem Yield.store_comm {first second : Yield} (store : Store)
    (h : ∀ target, first.target? = some target → second.target? ≠ some target) :
    second.store (first.store store) = first.store (second.store store) := by
  cases first with
  | printed value => rfl
  | sum target n =>
    cases second with
    | printed value => rfl
    | sum target' n' =>
      have hne : target ≠ target' := by
        intro heq
        exact h target rfl (congrArg some heq.symm)
      simp only [Yield.store, Store.modify, List.map_map, Store.mk.injEq]
      refine List.map_congr_left fun v _ => ?_
      simp only [Function.comp_apply]
      by_cases hv : v.name = target
      · simp [hv, hne]
      · by_cases hv' : v.name = target'
        · simp [hv', hne.symm]
        · simp [hv, hv']

/-- What a call writes, no other waiting call writes. -/
theorem Snapshot.Assigned.not_mem_outputs {snapshot : Snapshot} (h : snapshot.Assigned)
    {call other : PendingCall} {rest : Multiset PendingCall}
    (hwaiting : snapshot.waiting = call ::ₘ rest) (hother : other ∈ rest) {name : String}
    (hname : name ∈ call.outputs) : name ∉ other.outputs := by
  have honce := h.once
  rw [hwaiting, Multiset.cons_bind, Multiset.nodup_add] at honce
  obtain ⟨-, -, hdisjoint⟩ := honce
  intro hmem
  exact Multiset.disjoint_left.1 hdisjoint (Multiset.mem_coe.2 hname)
    (Multiset.mem_bind.2 ⟨other, hother, Multiset.mem_coe.2 hmem⟩)

section Independence

variable {store : Store} {node other : Node} {yielded : Yield}

/-- A variable that a call does not write stays as it is. -/
theorem find?_yield_of_not_mem (hyield : node.yield store = .ok yielded) {name : String}
    (hname : name ∉ node.call.outputs) :
    (yielded.store store).find? name = store.find? name := by
  apply Yield.find?_store_of_ne
  intro htarget
  exact hname (Node.mem_outputs_of_yield hyield htarget)

/-- What a call writes is not ready, so the ready inputs of another stay as they are. -/
theorem find?_yield_of_ready (hyield : node.yield store = .ok yielded)
    (hunready : ∀ name ∈ node.call.outputs, ¬ store.Ready name) {name : String}
    (hready : store.Ready name) : (yielded.store store).find? name = store.find? name := by
  apply find?_yield_of_not_mem hyield
  intro hmem
  exact hunready name hmem hready

end Independence

/-- Carrying out a call keeps assignments single. -/
theorem Snapshot.Assigned.fire {snapshot next : Snapshot} (h : snapshot.Assigned) {node : Node}
    {rest : Multiset PendingCall} (hwaiting : snapshot.waiting = node.call ::ₘ rest)
    (hnext : snapshot.fire node rest = some next) : next.Assigned := by
  rw [Snapshot.fire] at hnext
  split at hnext
  · next yielded hyield =>
    obtain rfl := Option.some.inj hnext
    refine ⟨?_, ?_⟩
    · have honce := h.once
      rw [hwaiting, Multiset.cons_bind, Multiset.nodup_add] at honce
      exact honce.2.1
    · intro call hcall name hname hready
      have hmem : call ∈ snapshot.waiting := by
        rw [hwaiting]
        exact Multiset.mem_cons_of_mem hcall
      -- a target of a waiting call can only become ready by that call
      have hwritten : name ∉ node.call.outputs := by
        intro hnode
        exact h.not_mem_outputs hwaiting hcall hnode hname
      obtain ⟨v, hfind, hv⟩ := hready
      rw [find?_yield_of_not_mem hyield hwritten] at hfind
      exact h.unready call hmem name hname ⟨v, hfind, hv⟩
  · cases hnext

/-! ## The diamond -/

/-- Carrying out a call that yields. -/
theorem Snapshot.fire_of_yield {snapshot : Snapshot} {node : Node} {yielded : Yield}
    (hyield : node.yield snapshot.store = .ok yielded) (rest : Multiset PendingCall) :
    snapshot.fire node rest =
      some ⟨yielded.store snapshot.store, rest, snapshot.printed + yielded.values,
        snapshot.dispatches + 1⟩ := by
  rw [Snapshot.fire, hyield]

theorem Snapshot.fire_of_fault {snapshot : Snapshot} {node : Node} {fault : Fault}
    (hyield : node.yield snapshot.store = .error fault) (rest : Multiset PendingCall) :
    snapshot.fire node rest = none := by
  rw [Snapshot.fire, hyield]

section Diamond

variable {snapshot : Snapshot} {node other : Node} {rest : Multiset PendingCall} {yielded : Yield}

/-- When one of two ready calls is carried out, the other is still ready and yields what it would
have yielded before. -/
theorem Snapshot.Assigned.second (h : snapshot.Assigned)
    (hwaiting : snapshot.waiting = node.call ::ₘ other.call ::ₘ rest)
    (hyield : node.yield snapshot.store = .ok yielded)
    (hready : ∀ name ∈ other.call.inputs, snapshot.store.Ready name) :
    (∀ name ∈ other.call.inputs, (yielded.store snapshot.store).Ready name) ∧
      other.yield (yielded.store snapshot.store) = other.yield snapshot.store := by
  have hunready : ∀ name ∈ node.call.outputs, ¬ snapshot.store.Ready name := by
    apply h.unready node.call
    rw [hwaiting]
    exact Multiset.mem_cons_self _ _
  have hinputs : ∀ name ∈ other.call.inputs,
      (yielded.store snapshot.store).find? name = snapshot.store.find? name := by
    intro name hname
    exact find?_yield_of_ready hyield hunready (hready name hname)
  refine ⟨?_, Node.yield_congr hinputs⟩
  intro name hname
  rw [Store.Ready, hinputs name hname]
  exact hready name hname

/-- Behind one of two ready calls the other can be carried out. -/
theorem Snapshot.Assigned.moves_second (h : snapshot.Assigned)
    (hwaiting : snapshot.waiting = node.call ::ₘ other.call ::ₘ rest)
    (hyield : node.yield snapshot.store = .ok yielded)
    (hready : ∀ name ∈ other.call.inputs, snapshot.store.Ready name) :
    ∃ next : Snapshot, snapshot.fire node (other.call ::ₘ rest) = some next ∧
      next.store = yielded.store snapshot.store ∧
      next.printed = snapshot.printed + yielded.values ∧
      next.dispatches = snapshot.dispatches + 1 ∧
      other.yield next.store = other.yield snapshot.store ∧
      Moves (some next) (next.fire other rest) := by
  have hfire := Snapshot.fire_of_yield hyield (other.call ::ₘ rest)
  obtain ⟨hstill, hsame⟩ := h.second hwaiting hyield hready
  refine ⟨_, hfire, rfl, rfl, rfl, hsame, ?_, .call rfl hstill⟩
  intro next hnext
  obtain rfl := Option.some.inj hnext
  exact h.fire hwaiting hfire

/-- A fault of one of two ready calls is still ahead behind the other. -/
theorem Snapshot.Assigned.fault_second (h : snapshot.Assigned)
    (hwaiting : snapshot.waiting = node.call ::ₘ other.call ::ₘ rest) {fault : Fault}
    (hfault : other.yield snapshot.store = .error fault)
    (hready : ∀ name ∈ other.call.inputs, snapshot.store.Ready name) :
    ReflGen Moves (snapshot.fire node (other.call ::ₘ rest)) none := by
  cases hyield : node.yield snapshot.store with
  | error fault' =>
    rw [Snapshot.fire_of_fault hyield]
  | ok yielded =>
    obtain ⟨next, hnext, -, -, -, hsame, hmoves⟩ := h.moves_second hwaiting hyield hready
    rw [hfault] at hsame
    rw [Snapshot.fire_of_fault hsame] at hmoves
    rw [hnext]
    exact .single hmoves

/-- Two ready calls come to the same in either order. -/
theorem Snapshot.Assigned.swap (h : snapshot.Assigned)
    (hwaiting : snapshot.waiting = node.call ::ₘ other.call ::ₘ rest)
    (hready : ∀ name ∈ node.call.inputs, snapshot.store.Ready name)
    (hready' : ∀ name ∈ other.call.inputs, snapshot.store.Ready name) :
    ∃ last, ReflGen Moves (snapshot.fire node (other.call ::ₘ rest)) last ∧
      ReflGen Moves (snapshot.fire other (node.call ::ₘ rest)) last := by
  have hwaiting' : snapshot.waiting = other.call ::ₘ node.call ::ₘ rest := by
    rw [hwaiting, Multiset.cons_swap]
  cases hyield : node.yield snapshot.store with
  | error fault =>
    rw [Snapshot.fire_of_fault hyield]
    exact ⟨none, .refl, h.fault_second hwaiting' hyield hready⟩
  | ok yielded =>
    cases hyield' : other.yield snapshot.store with
    | error fault' =>
      rw [Snapshot.fire_of_fault hyield']
      exact ⟨none, h.fault_second hwaiting hyield' hready', .refl⟩
    | ok yielded' =>
      obtain ⟨next, hnext, hstore, hprinted, hdispatches, hsame, hmoves⟩ :=
        h.moves_second hwaiting hyield hready'
      obtain ⟨next', hnext', hstore', hprinted', hdispatches', hsame', hmoves'⟩ :=
        h.moves_second hwaiting' hyield' hready
      -- the targets differ, so the two stores are one
      have htargets : ∀ target, yielded.target? = some target →
          yielded'.target? ≠ some target := by
        intro target htarget htarget'
        have hmem := Node.mem_outputs_of_yield hyield htarget
        have hmem' := Node.mem_outputs_of_yield hyield' htarget'
        exact h.not_mem_outputs hwaiting (Multiset.mem_cons_self _ _) hmem hmem'
      have hlast : next'.fire node rest = next.fire other rest := by
        rw [Snapshot.fire_of_yield (hsame.trans hyield'),
          Snapshot.fire_of_yield (hsame'.trans hyield), hstore, hstore', hprinted, hprinted',
          hdispatches, hdispatches', Yield.store_comm _ htargets, add_right_comm]
      rw [hlast] at hmoves'
      rw [hnext, hnext']
      exact ⟨_, .single hmoves, .single hmoves'⟩

end Diamond

/-- Moves have the diamond property. -/
theorem moves_diamond {first second third : Option Snapshot} (h : Moves first second)
    (h' : Moves first third) :
    ∃ last, ReflGen Moves second last ∧ ReflGen Moves third last := by
  obtain ⟨hassigned, hfires⟩ := h
  obtain ⟨-, hfires'⟩ := h'
  cases hfires with
  | @call snapshot node rest hwaiting hready =>
    cases hfires' with
    | @call _ other rest' hwaiting' hready' =>
      have hboth := hwaiting.symm.trans hwaiting'
      -- either both carry out the same call, or each leaves the other's in what waits
      rcases Multiset.cons_eq_cons.1 hboth with ⟨hsame, hrest⟩ | ⟨-, calls, hrest, hrest'⟩
      · obtain rfl := Node.call_injective hsame
        rw [hrest]
        exact ⟨_, .refl, .refl⟩
      · subst hrest hrest'
        exact (hassigned snapshot rfl).swap hwaiting hready hready'

/-- Moves that cannot go on end in the same place. -/
theorem eq_of_final {first last last' : Option Snapshot}
    (h : ReflTransGen Moves first last) (h' : ReflTransGen Moves first last')
    (hfinal : ∀ next, ¬ Moves last next) (hfinal' : ∀ next, ¬ Moves last' next) :
    last = last' := by
  have hdiamond : ∀ a b c, Moves a b → Moves a c →
      ∃ d, ReflGen Moves b d ∧ ReflTransGen Moves c d := by
    intro a b c hb hc
    obtain ⟨d, hbd, hcd⟩ := moves_diamond hb hc
    exact ⟨d, hbd, hcd.to_reflTransGen⟩
  obtain ⟨join, hjoin, hjoin'⟩ := church_rosser hdiamond h h'
  have hstays : ∀ {a b}, (∀ next, ¬ Moves a next) → ReflTransGen Moves a b → a = b := by
    intro a b hnone hab
    rcases hab.cases_head with heq | ⟨next, hnext, -⟩
    · exact heq
    · exact absurd hnext (hnone next)
  rw [hstays hfinal hjoin, hstays hfinal' hjoin']

/-! ## Draining in snapshots -/

/-- The snapshot that an outcome ends in, where `none` is a failure. -/
inductive Ends : Outcome → Option Snapshot → Prop where
  | halted {outcome : Outcome} (hphase : outcome.state.phase = .halted)
      (hqueue : outcome.state.queue = []) : Ends outcome (some outcome.state.snapshot)
  | deadlocked {outcome : Outcome} (hphase : outcome.state.phase = .deadlocked)
      (hqueue : outcome.state.queue ≠ []) : Ends outcome (some outcome.state.snapshot)
  | failed {outcome : Outcome} (hphase : outcome.state.phase = .failed) : Ends outcome none

/-- Nothing moves when every call waits. -/
theorem not_moves_of_waiting {snapshot : Snapshot}
    (h : ∀ call ∈ snapshot.waiting, ∃ name ∈ call.inputs, ¬ snapshot.store.Ready name)
    (next : Option Snapshot) : ¬ Moves (some snapshot) next := by
  rintro ⟨-, hfires⟩
  cases hfires with
  | call hwaiting hready =>
    obtain ⟨name, hname, hnot⟩ := h _ (by rw [hwaiting]; exact Multiset.mem_cons_self _ _)
    exact hnot (hready name hname)

theorem not_moves_none (next : Option Snapshot) : ¬ Moves none next := by
  rintro ⟨-, hfires⟩
  cases hfires

/-- A state whose queue holds a ready call moves. -/
theorem State.moves {state : State} {before after : Queue} {node : Node}
    (hassigned : state.snapshot.Assigned) (hqueue : state.queue = before ++ node.call :: after)
    (hready : ∀ name ∈ node.call.inputs, state.store.Ready name) :
    state.snapshot.waiting = node.call ::ₘ (before ++ after : List PendingCall) ∧
      Moves (some state.snapshot)
        (state.snapshot.fire node (before ++ after : List PendingCall)) := by
  have hwaiting :
      state.snapshot.waiting = node.call ::ₘ (before ++ after : List PendingCall) := by
    rw [State.snapshot, hqueue]
    exact Multiset.coe_eq_coe.2 List.perm_middle
  refine ⟨hwaiting, ?_, .call hwaiting hready⟩
  intro snapshot hsnapshot
  obtain rfl := Option.some.inj hsnapshot
  exact hassigned

/-- A dispatch is a move of the snapshots. -/
theorem Fired.fire_eq {state next : State} {rest : Queue} {node : Node} {yielded : Yield}
    (h : Fired node yielded rest state next) (hyield : node.yield state.store = .ok yielded) :
    state.snapshot.fire node rest = some next.snapshot := by
  rw [Snapshot.fire_of_yield hyield]
  simp only [State.snapshot, h.store, h.queue, h.output, h.dispatches, Multiset.coe_add]

/-- Draining a network moves on until nothing moves. -/
theorem Drains.moves {state : State} {outcome : Outcome} (h : Drains state outcome)
    (hassigned : state.snapshot.Assigned) :
    ∃ last, ReflTransGen Moves (some state.snapshot) last ∧
      (∀ next, ¬ Moves last next) ∧ Ends outcome last := by
  -- each dispatch is one move, and all three ends are places from which nothing moves
  induction h with
  | @halted state hqueue =>
    refine ⟨_, .refl, not_moves_of_waiting ?_, @Ends.halted (.done (state.move .halted)) rfl hqueue⟩
    intro call hcall
    rw [State.snapshot, hqueue] at hcall
    exact absurd hcall (Multiset.notMem_zero call)
  | @stuck state hqueue hwaiting =>
    have hkept : ((state.noteSkipped state.queue).move .deadlocked).queue = state.queue :=
      state.queue_noteSkipped state.queue
    have hsnapshot :
        ((state.noteSkipped state.queue).move .deadlocked).snapshot = state.snapshot := by
      simp [State.snapshot, State.move, State.note]
    refine ⟨_, .refl, not_moves_of_waiting hwaiting, ?_⟩
    rw [← hsnapshot]
    refine @Ends.deadlocked (.stopped _ _) rfl ?_
    rw [Outcome.stopped, hkept]
    exact hqueue
  | @faulty state last before after node fault hqueue hready hyield =>
    obtain ⟨-, hmoves⟩ := State.moves hassigned hqueue hready
    rw [Snapshot.fire_of_fault hyield] at hmoves
    exact ⟨none, .single hmoves, not_moves_none, .failed rfl⟩
  | @fired state next outcome before after node yielded hqueue hready hyield hfired hrest ih =>
    obtain ⟨hwaiting, hmoves⟩ := State.moves hassigned hqueue hready
    have hfire := hfired.fire_eq hyield
    rw [hfire] at hmoves
    obtain ⟨last, hpath, hfinal, hends⟩ := ih (hassigned.fire hwaiting hfire)
    exact ⟨last, .head hmoves hpath, hfinal, hends⟩

/-! ## Outcomes with the same snapshot -/

/-- States with the same snapshot differ in the order of their calls and outputs only. -/
theorem State.snapshot_eq_iff {state state' : State} :
    state'.snapshot = state.snapshot ↔
      state'.store = state.store ∧ state'.queue.Perm state.queue ∧
        state'.output.toList.Perm state.output.toList ∧ state'.dispatches = state.dispatches := by
  simp only [State.snapshot, Snapshot.mk.injEq, Multiset.coe_eq_coe]

/-- Outcomes that end in the same snapshot end in the same phase. -/
theorem Ends.phase_eq {outcome outcome' : Outcome} {last last' : Option Snapshot}
    (h : Ends outcome last) (h' : Ends outcome' last') (hlast : last' = last) :
    outcome'.state.phase = outcome.state.phase := by
  cases h with
  | failed hphase =>
    cases h' with
    | halted | deadlocked => cases hlast
    | failed hphase' => rw [hphase, hphase']
  | halted hphase hqueue =>
    cases h' with
    | failed => cases hlast
    | halted hphase' => rw [hphase, hphase']
    | deadlocked hphase' hqueue' =>
      -- one queue is empty and the other is not, so they are no permutations
      have hperm := (State.snapshot_eq_iff.1 (Option.some.inj hlast)).2.1
      rw [hqueue] at hperm
      exact absurd hperm.eq_nil hqueue'
  | deadlocked hphase hqueue =>
    cases h' with
    | failed => cases hlast
    | halted hphase' hqueue' =>
      have hperm := (State.snapshot_eq_iff.1 (Option.some.inj hlast)).2.1
      rw [hqueue'] at hperm
      exact absurd hperm.symm.eq_nil hqueue
    | deadlocked hphase' => rw [hphase, hphase']

/-- An outcome that is not a failure ends in its own snapshot. -/
theorem Ends.eq_snapshot {outcome : Outcome} {last : Option Snapshot} (h : Ends outcome last)
    (hphase : outcome.state.phase ≠ .failed) : last = some outcome.state.snapshot := by
  cases h with
  | halted => rfl
  | deadlocked => rfl
  | failed hfailed => exact absurd hfailed hphase

theorem Ends.phase_mem {outcome : Outcome} {last : Option Snapshot} (h : Ends outcome last) :
    outcome.state.phase ∈ [.halted, .deadlocked, .failed] := by
  cases h with
  | halted hphase => simp [hphase]
  | deadlocked hphase => simp [hphase]
  | failed hphase => simp [hphase]

/-! ## The order of the queue -/

/-- A state in which every variable is written by at most one queued call and not ready before. -/
theorem State.assigned_snapshot {state : State}
    (honce : (state.queue.flatMap PendingCall.outputs).Nodup)
    (hunready : ∀ call ∈ state.queue, ∀ name ∈ call.outputs, ¬ state.store.Ready name) :
    state.snapshot.Assigned := by
  refine ⟨?_, hunready⟩
  rw [State.snapshot, Multiset.coe_bind, Multiset.coe_nodup]
  exact honce

theorem State.IsNetwork.perm {state : State} {queue : Queue} (h : state.IsNetwork)
    (hperm : queue.Perm state.queue) : { state with queue }.IsNetwork := by
  refine ⟨h.unbound, ?_, ?_⟩
  · intro call hcall
    exact h.nodes call (hperm.mem_iff.1 hcall)
  · intro call hcall
    exact h.declared call (hperm.mem_iff.1 hcall)

/-- Draining a network ends in the same way for every order of its calls, as long as each variable
is written by at most one of them and not ready before. Unless it fails, it leaves the same store
after as many dispatches, and the same outputs and waiting calls up to order. -/
theorem drain_network_perm (setup : Setup) (state : State) (queue : Queue)
    (hlimit : setup.limit = 0) (hlistener : setup.Unrefused) (hnetwork : state.IsNetwork)
    (honce : (state.queue.flatMap PendingCall.outputs).Nodup)
    (hunready : ∀ call ∈ state.queue, ∀ name ∈ call.outputs, ¬ state.store.Ready name)
    (hperm : queue.Perm state.queue) :
    ∃ steps outcome steps' outcome',
      setup.advance steps (.draining state) = .ended outcome ∧
      setup.advance steps' (.draining { state with queue }) = .ended outcome' ∧
      outcome.state.phase ∈ [.halted, .deadlocked, .failed] ∧
      outcome'.state.phase = outcome.state.phase ∧
      (outcome.state.phase ≠ .failed →
        outcome'.state.store = outcome.state.store ∧
        outcome'.state.dispatches = outcome.state.dispatches ∧
        outcome'.state.output.toList.Perm outcome.state.output.toList ∧
        outcome'.state.queue.Perm outcome.state.queue) := by
  obtain ⟨steps, outcome, hend, hdrains⟩ := Setup.exists_drains hlimit hlistener hnetwork
  obtain ⟨steps', outcome', hend', hdrains'⟩ :=
    Setup.exists_drains hlimit hlistener (hnetwork.perm hperm)
  have hassigned := State.assigned_snapshot honce hunready
  -- the two runs start in one snapshot and move on until nothing moves
  have hsame : { state with queue }.snapshot = state.snapshot :=
    State.snapshot_eq_iff.2 ⟨rfl, hperm, List.Perm.refl _, rfl⟩
  obtain ⟨last, hpath, hfinal, hends⟩ := hdrains.moves hassigned
  obtain ⟨last', hpath', hfinal', hends'⟩ := hdrains'.moves (hsame ▸ hassigned)
  rw [hsame] at hpath'
  have hlast : last' = last := eq_of_final hpath' hpath hfinal' hfinal
  have hphase := hends.phase_eq hends' hlast
  refine ⟨steps, outcome, steps', outcome', hend, hend', hends.phase_mem, hphase, ?_⟩
  intro hnot
  have hsnapshot : outcome'.state.snapshot = outcome.state.snapshot := by
    apply Option.some.inj
    rw [← hends.eq_snapshot hnot, ← hends'.eq_snapshot (hphase ▸ hnot), hlast]
  obtain ⟨hstore, hqueue, houtput, hdispatches⟩ := State.snapshot_eq_iff.1 hsnapshot
  exact ⟨hstore, hdispatches, houtput, hqueue⟩

/-- A chain of additions that are queued before the summands they wait for, and a print that waits
in vain. -/
def chain : State :=
  .ofNodes
    ⟨[⟨"a", "int", .text "1", true, false⟩, ⟨"b", "int", .text "2", true, false⟩,
      .fresh "c" "int", .fresh "d" "int", .fresh "e" "int"]⟩
    [.print "d", .add "a" "c" "d", .print "e", .add "a" "b" "c"]

/-- Reversing the chain changes the order of its dispatches and not the store that it leaves. -/
theorem drain_network_perm_chain :
    ∃ steps outcome steps' outcome',
      Setup.plain.advance steps (.draining chain) = .ended outcome ∧
      Setup.plain.advance steps' (.draining { chain with queue := chain.queue.reverse }) =
        .ended outcome' ∧
      outcome.state.phase = .deadlocked ∧ outcome'.state.phase = .deadlocked ∧
      outcome'.state.store = outcome.state.store := by
  have hnetwork : chain.IsNetwork := State.isNetwork_ofNodes (by decide) (by decide)
  obtain ⟨steps, outcome, steps', outcome', hend, hend', -, hphase, hsame⟩ :=
    drain_network_perm .plain chain chain.queue.reverse rfl Setup.unrefused_plain hnetwork
      (by decide) (by decide) (List.reverse_perm chain.queue)
  obtain ⟨last, hlast, hdeadlocked⟩ :
      ∃ last, Setup.plain.advance 4 (.draining chain) = .ended last ∧
        last.state.phase = .deadlocked :=
    ⟨_, rfl, rfl⟩
  obtain rfl := Setup.advance_unique hlast hend
  have hstore := (hsame (by rw [hdeadlocked]; decide)).1
  exact ⟨steps, last, steps', outcome', hend, hend', hdeadlocked, hphase.trans hdeadlocked, hstore⟩

end Dataflow
