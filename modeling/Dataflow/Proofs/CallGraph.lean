import Mathlib
import Dataflow.Proofs.DispatchLimit
import Dataflow.Proofs.History

/-!
# Runs of programs without recursion

A dispatch can make the queue longer by any amount, so draining has no measure of its own. If no
chain of calls from the entry function runs into a cycle (`Program.Acyclic`), the call graph gives
one: `Program.weight` counts the calls that a function leads to, and a dispatched call of a function
is replaced in the queue by calls whose costs add up to its weight. The number of dispatches and
the costs of the queued calls therefore always add up to the weight of the entry function
(`Run.Conserved`), which bounds the run.

The weight is computed down to a depth of as many calls as there are functions; in an acyclic
program a chain of calls is never longer (`Program.callsWithin_succ`), so that the weight satisfies
its recursive equation (`Program.weight_eq`).

Main statement: `acyclic_run_conserves_weight`.
-/

set_option autoImplicit false

namespace Dataflow

open Relation

/-! ## The call graph -/

namespace Program

/-- Whether calls of a name are carried out by a function of the program: the name is defined, and
is not that of an intrinsic function. -/
def owns (program : Program) (name : String) : Bool :=
  program.defines name && (Intrinsic.ofName? name).isNone

/-- The functions that the body of a function calls, one for each `call` in it. -/
def callees (program : Program) (name : String) : List String :=
  match program.find? name with
  | some f => f.callees
  | none => []

/-- The body of one function calls another function of the program. -/
def Calls (program : Program) (caller callee : String) : Prop :=
  callee ∈ program.callees caller ∧ program.owns callee = true

/-- A chain of calls leads from the entry function to a function. -/
def Reaches (program : Program) (name : String) : Prop :=
  ReflTransGen program.Calls entryName name

/-- No chain of calls from the entry function runs into a cycle. -/
def Acyclic (program : Program) : Prop :=
  ∀ name, program.Reaches name → ¬ TransGen program.Calls name name

/-- The number of calls that a function leads to, counted down to a depth of the call graph. -/
def callsWithin (program : Program) : Nat → String → Nat
  | 0, _ => 0
  | depth + 1, name =>
    ((program.callees name).map fun callee =>
      1 + if program.owns callee then program.callsWithin depth callee else 0).sum

/-- The number of calls that a function leads to. -/
def weight (program : Program) (name : String) : Nat :=
  program.callsWithin program.functions.length name

/-- What a call comes to: itself, and the calls that it leads to. -/
def cost (program : Program) (name : String) : Nat :=
  1 + if program.owns name then program.weight name else 0

/-- What calls come to together. -/
def owed (program : Program) (names : List String) : Nat :=
  (names.map program.cost).sum

/-- A function that calls something is defined. -/
theorem mem_names_of_mem_callees {program : Program} {name callee : String}
    (h : callee ∈ program.callees name) : name ∈ program.names := by
  rw [callees] at h
  cases hfind : program.find? name with
  | none =>
    rw [hfind] at h
    exact absurd h List.not_mem_nil
  | some f =>
    have hname := List.find?_some hfind
    exact List.mem_map.2 ⟨f, List.mem_of_find?_eq_some hfind, of_decide_eq_true hname⟩

/-- Different functions from each of which calls lead to one that is reached. -/
structure Chain (program : Program) (chain : List String) (name : String) : Prop where
  reached : program.Reaches name
  nodup : chain.Nodup
  defined : chain ⊆ program.names
  leads : ∀ caller ∈ chain, TransGen program.Calls caller name

section Chains

variable {program : Program} {chain : List String} {name callee : String}

theorem Chain.nil (h : program.Reaches name) : program.Chain [] name where
  reached := h
  nodup := List.nodup_nil
  defined := List.nil_subset _
  leads := fun _ hcaller => absurd hcaller List.not_mem_nil

/-- A function on the chain that leads to it would close a cycle. -/
theorem Chain.nodup_cons (hacyclic : program.Acyclic) (h : program.Chain chain name) :
    (name :: chain).Nodup := by
  refine List.nodup_cons.2 ⟨?_, h.nodup⟩
  intro hmem
  exact hacyclic name h.reached (h.leads name hmem)

/-- A chain can be extended by a call. -/
theorem Chain.extend (hacyclic : program.Acyclic) (h : program.Chain chain name)
    (hcall : program.Calls name callee) : program.Chain (name :: chain) callee where
  reached := h.reached.tail hcall
  nodup := h.nodup_cons hacyclic
  defined := List.cons_subset.2 ⟨mem_names_of_mem_callees hcall.1, h.defined⟩
  leads := by
    intro caller hcaller
    rcases List.mem_cons.1 hcaller with rfl | hcaller
    · exact .single hcall
    · exact (h.leads caller hcaller).tail hcall

/-- In an acyclic program counting one level deeper finds nothing new, once the depth and the
functions on a chain are together as many as the functions of the program. -/
theorem callsWithin_succ (hacyclic : program.Acyclic) {depth : Nat} (h : program.Chain chain name)
    (hlength : program.functions.length ≤ depth + chain.length) :
    program.callsWithin (depth + 1) name = program.callsWithin depth name := by
  induction depth generalizing name chain with
  | zero =>
    -- if it called something, it would be one function more than there are
    have hnone : program.callees name = [] := by
      rw [List.eq_nil_iff_forall_not_mem]
      intro callee hcallee
      have hsubset : name :: chain ⊆ program.names :=
        List.cons_subset.2 ⟨mem_names_of_mem_callees hcallee, h.defined⟩
      have hle := (h.nodup_cons hacyclic).length_le_of_subset hsubset
      rw [names, List.length_map, List.length_cons] at hle
      omega
    simp [callsWithin, hnone]
  | succ depth ih =>
    rw [callsWithin, callsWithin]
    congr 1
    apply List.map_congr_left
    intro callee hcallee
    cases howns : program.owns callee with
    | false => rfl
    | true =>
      have hdeeper := ih (h.extend hacyclic ⟨hcallee, howns⟩) (by rw [List.length_cons]; omega)
      rw [hdeeper]

end Chains

/-- The weight of a function is what the calls in its body come to. -/
theorem weight_eq {program : Program} (hacyclic : program.Acyclic) {name : String}
    (hname : program.Reaches name) :
    program.weight name = program.owed (program.callees name) := by
  have hdeeper : program.callsWithin (program.functions.length + 1) name =
      program.callsWithin program.functions.length name :=
    callsWithin_succ hacyclic (.nil hname) (Nat.le_refl _)
  rw [weight, ← hdeeper]
  rfl

/-- A program is acyclic if its functions can be ranked so that each calls lower ones only. -/
theorem acyclic_of_rank {program : Program} (rank : String → Nat)
    (hrank : ∀ caller callee, program.Calls caller callee → rank callee < rank caller) :
    program.Acyclic := by
  have hlower : ∀ caller callee, TransGen program.Calls caller callee →
      rank callee < rank caller := by
    intro caller callee hpath
    induction hpath with
    | single hcall => exact hrank _ _ hcall
    | tail _ hcall ih => exact Nat.lt_trans (hrank _ _ hcall) ih
  intro name _ hcycle
  exact Nat.lt_irrefl _ (hlower name name hcycle)

theorem owed_append (program : Program) (first second : List String) :
    program.owed (first ++ second) = program.owed first + program.owed second := by
  rw [owed, List.map_append, List.sum_append]
  rfl

theorem owed_cons (program : Program) (name : String) (rest : List String) :
    program.owed (name :: rest) = program.cost name + program.owed rest := by
  rw [owed, List.map_cons, List.sum_cons]
  rfl

/-- Something is owed for every call. -/
theorem length_le_owed (program : Program) (names : List String) :
    names.length ≤ program.owed names := by
  induction names with
  | nil => exact Nat.le_refl 0
  | cons name rest ih =>
    rw [owed_cons, List.length_cons, cost]
    omega

end Program

/-! ## Conservation -/

/-- The functions of queued calls. -/
def Queue.functions (queue : Queue) : List String := queue.map PendingCall.function

theorem Queue.functions_append (first second : Queue) :
    Queue.functions (first ++ second) = Queue.functions first ++ Queue.functions second :=
  List.map_append

/-- While a run drains, the dispatches and what the queued calls come to add up to the weight of
the entry function, and the queued calls of functions of the program are reached from it. At the
end the dispatches are at most that weight, all of it if the run halted and less if calls are
left. -/
def Run.Conserved (program : Program) : Run → Prop
  | .draining state =>
    state.dispatches + program.owed state.queue.functions = program.weight entryName ∧
      ∀ name ∈ state.queue.functions, program.owns name = true → program.Reaches name
  | .ended outcome =>
    outcome.state.dispatches ≤ program.weight entryName ∧
      (outcome.state.phase = .halted → outcome.state.dispatches = program.weight entryName) ∧
      (outcome.state.phase = .deadlocked → outcome.state.dispatches < program.weight entryName)

theorem Run.conserved_fail {program : Program} {state : State} {failure : Failure}
    (h : state.dispatches ≤ program.weight entryName) :
    (Run.fail state .failed failure).Conserved program := by
  refine ⟨h, ?_, ?_⟩
  · intro hphase
    cases hphase
  · intro hphase
    cases hphase

namespace Setup

section Conservation

variable {setup : Setup} (hacyclic : setup.program.Acyclic)
include hacyclic

/-- A call of which the dispatch is complete is replaced by calls that together come to one less,
and those are reached if it was. -/
theorem cost_of_dispatch {call : PendingCall} {history : History}
    (hcall : setup.program.owns call.function = true → setup.program.Reaches call.function)
    (hfunctions : history.enqueued.map PendingCall.function = history.called)
    (hcalled : match Intrinsic.ofName? call.function with
      | some _ => history.called = []
      | none => ∃ f, setup.program.find? call.function = some f ∧ history.called = f.callees) :
    setup.program.cost call.function = 1 + setup.program.owed (Queue.functions history.enqueued) ∧
      ∀ name ∈ Queue.functions history.enqueued,
        setup.program.owns name = true → setup.program.Reaches name := by
  have hnames : Queue.functions history.enqueued = history.called := hfunctions
  rw [hnames]
  cases hintrinsic : Intrinsic.ofName? call.function with
  | some intrinsic =>
    -- an intrinsic function takes the call even where the program defines its name
    simp only [hintrinsic] at hcalled
    have howns : setup.program.owns call.function = false := by
      simp [Program.owns, hintrinsic]
    rw [hcalled, Program.cost, howns]
    exact ⟨rfl, fun name hname => absurd hname List.not_mem_nil⟩
  | none =>
    simp only [hintrinsic] at hcalled
    obtain ⟨f, hfind, hcallees⟩ := hcalled
    have howns : setup.program.owns call.function = true := by
      simp [Program.owns, Program.defines, hintrinsic, hfind]
    have hbody : history.called = setup.program.callees call.function := by
      rw [Program.callees, hfind, hcallees]
    have hreach := hcall howns
    rw [hbody, Program.cost, howns, if_pos rfl, Program.weight_eq hacyclic hreach]
    exact ⟨rfl, fun name hname hown => hreach.tail ⟨hname, hown⟩⟩

/-- A dispatch keeps the balance, or ends the run within the weight. -/
theorem conserved_afterDispatch {state : State} {call : PendingCall}
    (hsum : state.dispatches + (setup.program.cost call.function +
      setup.program.owed state.queue.functions) = setup.program.weight entryName)
    (hcall : setup.program.owns call.function = true → setup.program.Reaches call.function)
    (hqueue : ∀ name ∈ state.queue.functions,
      setup.program.owns name = true → setup.program.Reaches name) :
    (Run.afterDispatch (setup.dispatch call state)).Conserved setup.program := by
  cases hlimit : setup.exhausted state with
  | true =>
    rw [dispatch_of_exhausted call hlimit]
    apply Run.conserved_fail
    omega
  | false =>
    have hcount : (setup.dispatch call state).state.dispatches = state.dispatches + 1 :=
      (dispatch_carried call hlimit).dispatches
    obtain ⟨history, hrecords, hfunctions, hcalled⟩ := dispatch_records call hlimit
    cases hdispatch : setup.dispatch call state with
    | mk next failure =>
      rw [hdispatch] at hcount hrecords hcalled
      have hdispatches : next.dispatches = state.dispatches + 1 := hcount
      cases failure with
      | some failure =>
        -- the call that failed was paid for when it was queued
        apply Run.conserved_fail
        rw [Program.cost] at hsum
        omega
      | none =>
        obtain ⟨hcost, hreach⟩ := cost_of_dispatch hacyclic hcall hfunctions (hcalled rfl)
        have hnext : next.queue.functions =
            state.queue.functions ++ Queue.functions history.enqueued := by
          rw [← Queue.functions_append]
          exact congrArg Queue.functions hrecords.queue
        constructor
        · rw [hnext, setup.program.owed_append, hdispatches]
          omega
        · intro name hname
          rw [hnext] at hname
          rcases List.mem_append.1 hname with hold | hnew
          · exact hqueue name hold
          · exact hreach name hnew

/-- One step keeps the balance. -/
theorem conserved_step (run : Run) (h : run.Conserved setup.program) :
    (setup.step run).Conserved setup.program := by
  cases run with
  | ended outcome => exact h
  | draining state =>
    obtain ⟨hsum, hreach⟩ := h
    have hle : state.dispatches ≤ setup.program.weight entryName := by omega
    have hstep := setup.drained state
    rw [step]
    generalize setup.drain state = next at hstep
    cases hstep with
    | halted hqueue =>
      rw [hqueue] at hsum
      refine ⟨hle, fun _ => hsum, ?_⟩
      intro hphase
      cases hphase
    | stuck hqueue hnone =>
      have hqueued := setup.program.length_le_owed state.queue.functions
      have hpos : 0 < state.queue.functions.length := by
        rw [Queue.functions, List.length_map]
        exact List.length_pos_iff.2 hqueue
      rw [State.noteSkipped_eq]
      refine ⟨hle, ?_, ?_⟩
      · intro hphase
        cases hphase
      · intro _
        show state.dispatches < setup.program.weight entryName
        omega
    | faulty hqueue hbefore hcall =>
      apply Run.conserved_fail
      rw [State.dispatches_noteSkipped]
      exact hle
    | @dispatched before after call hqueue hbefore hcall =>
      have hfunctions : state.queue.functions =
          Queue.functions before ++ call.function :: Queue.functions after := by
        rw [hqueue, Queue.functions_append]
        rfl
      rw [hfunctions] at hsum hreach
      rw [setup.program.owed_append, setup.program.owed_cons] at hsum
      rw [State.taking_eq]
      -- taking the call out of the queue leaves what is around it
      apply conserved_afterDispatch hacyclic
      · show state.dispatches + (setup.program.cost call.function +
          setup.program.owed (Queue.functions (before ++ after))) = _
        rw [Queue.functions_append, setup.program.owed_append]
        omega
      · exact hreach call.function (List.mem_append_right _ List.mem_cons_self)
      · intro name hname
        rw [Queue.functions_append] at hname
        apply hreach name
        rcases List.mem_append.1 hname with hname | hname
        · exact List.mem_append_left _ hname
        · exact List.mem_append_right _ (List.mem_cons_of_mem _ hname)

/-- The entry function queues what its weight stands for. -/
theorem conserved_start (journal : Array Event) :
    (setup.start (.initial journal)).Conserved setup.program := by
  have hnone := setup.dispatches_start journal
  obtain ⟨history, hrecords, hfunctions, hcalled⟩ := setup.start_records journal
  obtain ⟨outcome, hcarried, ⟨-, hstart⟩ | ⟨failure, -, hstart⟩⟩ := setup.start_initial journal
  · obtain ⟨f, hfind, hcallees⟩ := hcalled _ hstart
    have hqueue : Queue.functions (setup.start (.initial journal)).state.queue =
        setup.program.callees entryName := by
      rw [Program.callees, hfind, hrecords.queue]
      exact hfunctions.trans hcallees
    rw [hstart] at hnone hqueue ⊢
    have hentry : setup.program.Reaches entryName := .refl
    constructor
    · show (outcome.state.move .draining).dispatches +
        setup.program.owed (Queue.functions (outcome.state.move .draining).queue) = _
      have hzero : (outcome.state.move .draining).dispatches = 0 := hnone
      have hnames : Queue.functions (outcome.state.move .draining).queue =
        setup.program.callees entryName := hqueue
      rw [hzero, hnames, Program.weight_eq hacyclic hentry, Nat.zero_add]
    · intro name hname howns
      have hmem : name ∈ setup.program.callees entryName := hqueue ▸ hname
      exact hentry.tail ⟨hmem, howns⟩
  · rw [hstart] at hnone ⊢
    apply Run.conserved_fail
    have hzero : outcome.state.dispatches = 0 := hnone
    omega

theorem conserved_advance (journal : Array Event) (steps : Nat) :
    (setup.advance steps (setup.start (.initial journal))).Conserved setup.program :=
  advance_keep (conserved_step hacyclic) steps (conserved_start hacyclic journal)

end Conservation

/-! ## Runs of acyclic programs -/

/-- A run of an acyclic program ends. The number of calls a function leads to is well defined, and
at every scheduling point the dispatches and what the queued calls come to add up to that of the
entry function: it bounds the dispatches, is reached when the run halts, and is not when it ends in
a deadlock. -/
theorem acyclic_run_conserves_weight (setup : Setup) (journal : Array Event)
    (hacyclic : setup.program.Acyclic) :
    (∀ name, setup.program.Reaches name →
      setup.program.weight name = ((setup.program.callees name).map fun callee =>
        1 + if setup.program.owns callee then setup.program.weight callee else 0).sum) ∧
    (∃ steps outcome, setup.run steps (.initial journal) = some outcome) ∧
    (∀ steps state, setup.advance steps (setup.start (.initial journal)) = .draining state →
      state.dispatches + (state.queue.map fun call =>
        1 + if setup.program.owns call.function then setup.program.weight call.function else 0).sum =
        setup.program.weight entryName) ∧
    (∀ steps, (setup.advance steps (setup.start (.initial journal))).state.dispatches ≤
      setup.program.weight entryName) ∧
    (∀ steps outcome, setup.run steps (.initial journal) = some outcome →
      (outcome.state.phase = .halted →
        outcome.state.dispatches = setup.program.weight entryName) ∧
      (outcome.state.phase = .deadlocked →
        outcome.state.dispatches < setup.program.weight entryName)) := by
  have hconserved := conserved_advance hacyclic journal
  refine ⟨fun name => Program.weight_eq hacyclic, ?_, ?_, ?_, ?_⟩
  · -- each step of a run that goes on is a dispatch, and there are not more than the weight
    refine ⟨setup.program.weight entryName + 1, ?_⟩
    have hend := hconserved (setup.program.weight entryName + 1)
    cases hreach : setup.advance (setup.program.weight entryName + 1)
        (setup.start (.initial journal)) with
    | ended outcome => exact ⟨outcome, run_eq_some_iff.2 hreach⟩
    | draining state =>
      rw [hreach] at hend
      have hcount := dispatches_of_draining hreach
      have hsum := hend.1
      omega
  · intro steps state hreach
    have hsum := hconserved steps
    rw [hreach] at hsum
    rw [← hsum.1, Program.owed, Queue.functions, List.map_map]
    rfl
  · intro steps
    have hsum := hconserved steps
    cases hreach : setup.advance steps (setup.start (.initial journal)) with
    | ended outcome =>
      rw [hreach] at hsum
      exact hsum.1
    | draining state =>
      rw [hreach] at hsum
      have hle := hsum.1
      show state.dispatches ≤ setup.program.weight entryName
      omega
  · intro steps outcome hrun
    have hsum := hconserved steps
    rw [run_eq_some_iff.1 hrun] at hsum
    exact hsum.2

/-- The entry function calls `twice` two times and `print` once; `twice` calls `add` two times, and
a function of the program named `add` would call `twice` but never runs. -/
def sharedCallee : Setup :=
  let entry : List Instruction :=
    [.declare "a" "int", .assign "a" "1", .call "twice", .bind ⟨"a", .input⟩, .call "print",
      .call "twice"]
  let bindings : List Instruction :=
    [.bind ⟨"a", .input⟩, .bind ⟨"a", .input⟩, .bind ⟨"a", .output⟩, .call "add"]
  let body := List.map fun instruction : Instruction => (⟨instruction, "", 0⟩ : Statement)
  ⟨⟨[⟨entryName, [], body entry, 1⟩, ⟨"twice", [], body (bindings ++ bindings), 2⟩,
    ⟨"add", [], body [.call "twice"], 3⟩]⟩, 0, none⟩

/-- Of the functions of `sharedCallee` only `twice` is called, and not by itself. -/
theorem acyclic_sharedCallee : sharedCallee.program.Acyclic := by
  apply Program.acyclic_of_rank fun name => if name = "twice" then 0 else 1
  rintro caller callee ⟨hmem, howns⟩
  have hcaller := Program.mem_names_of_mem_callees hmem
  simp only [Program.names, sharedCallee, List.map_cons, List.map_nil, List.mem_cons,
    List.not_mem_nil, or_false] at hcaller
  rcases hcaller with rfl | rfl | rfl
  · have hcallee : callee ∈ ["twice", "print", "twice"] := hmem
    simp only [List.mem_cons, List.not_mem_nil, or_false] at hcallee
    rcases hcallee with rfl | rfl | rfl
    · decide
    · exact absurd howns (by decide)
    · decide
  · have hcallee : callee ∈ ["add", "add"] := hmem
    have hadd : callee = "add" := by simpa using hcallee
    subst hadd
    exact absurd howns (by decide)
  · have hcallee : callee ∈ ["twice"] := hmem
    obtain rfl := List.mem_singleton.1 hcallee
    decide

/-- Seven calls are dispatched: three of the entry function and two for each call of `twice`. -/
theorem acyclic_run_conserves_weight_shared_callee :
    sharedCallee.program.Acyclic ∧ sharedCallee.program.weight entryName = 7 ∧
      ∃ steps outcome, sharedCallee.run steps (.initial #[]) = some outcome ∧
        outcome.state.phase = .halted ∧ outcome.state.dispatches = 7 := by
  obtain ⟨-, ⟨steps, outcome, hrun⟩, -, -, hends⟩ :=
    sharedCallee.acyclic_run_conserves_weight #[] acyclic_sharedCallee
  obtain ⟨other, hother, hphase⟩ : ∃ other, sharedCallee.run 8 (.initial #[]) = some other ∧
    other.state.phase = .halted := ⟨_, rfl, rfl⟩
  obtain rfl := run_unique hrun hother
  exact ⟨acyclic_sharedCallee, rfl, steps, outcome, hrun, hphase,
    (hends steps outcome hrun).1 hphase⟩

end Setup

end Dataflow
