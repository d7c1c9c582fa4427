import Mathlib.Data.List.Nodup
import Dataflow.Proofs.Emission
import Dataflow.Proofs.Parsing

/-!
# States that runs of parsed programs reach

A variable of a run of a parsed program is never reserved, is ready just when it has a value, and
holds an integer or a token if it has one (`Variable.WellFormed`); variables are told apart by their
names, and all names are tokens (`State.WellFormed`). One lemma for each operation shows that it
keeps this; `copy` does because it takes value and readiness from the same variable. Every state
that a run passes, also between two statements and after a failure, is therefore well formed
(`Setup.Passes.wellFormed`).

Together with what the scan guarantees of a dispatched call, this tells where a missing value can
come from: intrinsic functions ignore directions, so only a variable that was bound as an output can
be without a value when they read it.

Main statement: `parsed_run_wellFormed`.
-/

set_option autoImplicit false

namespace Dataflow

/-! ## Well-formedness -/

/-- The values that runs of parsed programs store: none, integers and tokens. -/
def Value.WellFormed : Value → Prop
  | .absent => True
  | .int _ => True
  | .text content => IsToken content
  | .bool _ => False

/-- A variable is not reserved, and is ready just when it has a value. -/
structure Variable.WellFormed (v : Variable) : Prop where
  name : IsToken v.name
  type : IsToken v.type
  bound : v.bound = false
  ready : v.ready = true ↔ v.value ≠ .absent
  value : v.value.WellFormed

/-- No two variables have the same name. -/
structure Store.WellFormed (store : Store) : Prop where
  names : store.names.Nodup
  entries : ∀ v ∈ store.entries, v.WellFormed

/-- The names in a call are tokens. -/
structure PendingCall.WellFormed (call : PendingCall) : Prop where
  function : IsToken call.function
  bindings : ∀ b ∈ call.bindings, IsToken b.name

/-- The store is well formed, and the names in the queue and in the bindings for the next call are
tokens. -/
structure State.WellFormed (state : State) : Prop where
  store : state.store.WellFormed
  queue : ∀ call ∈ state.queue, call.WellFormed
  bindings : ∀ b ∈ state.bindings, IsToken b.name

/-- The operands of a program are tokens. -/
def Program.WellFormed (program : Program) : Prop :=
  ∀ f ∈ program.functions, ∀ statement ∈ f.body,
    ∀ operand ∈ statement.instruction.operands, IsToken operand

theorem Program.wellFormed_of_parse {skipBlank : Bool} {lines : List String} {program : Program}
    (h : parse skipBlank lines = .ok program) : program.WellFormed :=
  fun _ hf _ hstatement => operand_isToken_of_parse h hf hstatement

/-! ## Stores -/

namespace Store.WellFormed

variable {store store' : Store} {name : String}

theorem empty : Store.empty.WellFormed where
  names := List.nodup_nil
  entries := fun _ hv => absurd hv List.not_mem_nil

theorem find? (h : store.WellFormed) {v : Variable} (hfind : store.find? name = some v) :
    v.WellFormed :=
  h.entries v (mem_of_find? hfind)

/-- A new variable is neither ready nor has a value. -/
theorem declare (h : store.WellFormed) {type : String} (hname : IsToken name) (htype : IsToken type)
    (hdeclare : store.declare name type = .ok store') : store'.WellFormed := by
  have hnames := names_declare hdeclare
  rw [Store.declare] at hdeclare
  split at hdeclare
  · cases hdeclare
  · next hfree =>
    obtain rfl := Except.ok.inj hdeclare
    constructor
    · rw [hnames]
      -- a name can be declared only while it is free
      refine List.nodup_append.2 ⟨h.names, List.nodup_singleton name, ?_⟩
      rintro other hother _ hnew rfl
      obtain rfl := List.mem_singleton.1 hnew
      exact hfree ((store.contains_iff other).2 hother)
    · intro v hv
      rcases List.mem_append.1 hv with hold | hnew
      · exact h.entries v hold
      · obtain rfl := List.mem_singleton.1 hnew
        exact ⟨hname, htype, rfl, by simp [Variable.fresh], trivial⟩

/-- A value and a readiness that go together can be written. -/
theorem write (h : store.WellFormed) {value : Value} {ready : Bool} (hvalue : value.WellFormed)
    (hready : ready = true ↔ value ≠ .absent)
    (hwrite : store.write name value ready = .ok store') : store'.WellFormed := by
  have hnames := names_write hwrite
  obtain ⟨-, rfl⟩ := write_eq_ok_iff.1 hwrite
  constructor
  · rw [hnames]
    exact h.names
  · intro v hv
    obtain ⟨w, hw, rfl⟩ := List.mem_map.1 hv
    have hold := h.entries w hw
    split
    · exact ⟨hold.name, hold.type, hold.bound, hready, hvalue⟩
    · exact hold

theorem delete (h : store.WellFormed) (hdelete : store.delete name = .ok store') :
    store'.WellFormed := by
  have hnames := names_delete hdelete
  rw [Store.delete] at hdelete
  split at hdelete
  · obtain rfl := Except.ok.inj hdelete
    constructor
    · rw [hnames]
      exact h.names.filter _
    · intro v hv
      exact h.entries v (List.mem_filter.1 hv).1
  · cases hdelete

end Store.WellFormed

/-! ## Statements -/

namespace State.WellFormed

variable {state : State}

/-- What is kept outside the store, the queue and the bindings makes no difference. -/
theorem of_eq {next : State} (h : state.WellFormed) (hstore : next.store = state.store)
    (hqueue : next.queue = state.queue) (hbindings : next.bindings = state.bindings) :
    next.WellFormed where
  store := hstore ▸ h.store
  queue := hqueue ▸ h.queue
  bindings := hbindings ▸ h.bindings

theorem initial (journal : Array Event) : (State.initial journal).WellFormed where
  store := .empty
  queue := fun _ hcall => absurd hcall List.not_mem_nil
  bindings := fun _ hb => absurd hb List.not_mem_nil

theorem note (h : state.WellFormed) (event : Event) : (state.note event).WellFormed :=
  h.of_eq rfl rfl rfl

theorem move (h : state.WellFormed) (phase : Phase) : (state.move phase).WellFormed :=
  h.of_eq rfl rfl rfl

theorem write (h : state.WellFormed) (name : String) {value : Value} {ready : Bool}
    (hvalue : value.WellFormed) (hready : ready = true ↔ value ≠ .absent) :
    (state.write name value ready).state.WellFormed := by
  rw [State.write]
  cases hwrite : state.store.write name value ready with
  | error fault => exact h
  | ok store => exact ⟨h.store.write hvalue hready hwrite, h.queue, h.bindings⟩

theorem updateStore (h : state.WellFormed) {result : Except Fault Store}
    (hresult : ∀ store, result = .ok store → store.WellFormed) :
    (state.updateStore result).state.WellFormed := by
  cases result with
  | error fault => exact h
  | ok store => exact ⟨hresult store rfl, h.queue, h.bindings⟩

/-- An instruction whose operands are tokens keeps a state well formed, also if it fails. -/
theorem perform (h : state.WellFormed) {instruction : Instruction}
    (htokens : ∀ operand ∈ instruction.operands, IsToken operand) :
    (instruction.perform state).state.WellFormed := by
  cases instruction with
  | declare name type =>
    have hname := htokens name (by simp [Instruction.operands])
    have htype := htokens type (by simp [Instruction.operands])
    exact h.updateStore fun store hstore => h.store.declare hname htype hstore
  | assign name literal =>
    have hliteral : (Value.text literal).WellFormed :=
      htokens literal (by simp [Instruction.operands])
    exact h.write name hliteral (by simp)
  | bind b =>
    have hname := htokens b.name (by simp [Instruction.operands])
    refine ⟨h.store, h.queue, ?_⟩
    intro other hother
    rcases List.mem_append.1 hother with hold | hnew
    · exact h.bindings other hold
    · obtain rfl := List.mem_singleton.1 hnew
      exact hname
  | call function =>
    have hfunction := htokens function (by simp [Instruction.operands])
    refine ⟨h.store, ?_, fun b hb => absurd hb List.not_mem_nil⟩
    intro other hother
    rcases List.mem_append.1 hother with hold | hnew
    · exact h.queue other hold
    · obtain rfl := List.mem_singleton.1 hnew
      exact ⟨hfunction, h.bindings⟩
  | copy target source =>
    rw [Instruction.perform]
    cases hget : state.store.get source with
    | error fault => exact h
    | ok v =>
      -- value and readiness come from the same variable, so they go together
      have hv := h.store.find? (Store.get_eq_ok_iff.1 hget)
      exact h.write target hv.value hv.ready
  | delete name => exact h.updateStore fun store hstore => h.store.delete hstore

/-- Statements keep a state well formed, up to the first failure. -/
theorem executeAll (h : state.WellFormed) {body : List Statement}
    (htokens : ∀ statement ∈ body, ∀ operand ∈ statement.instruction.operands, IsToken operand) :
    (executeAll body state).state.WellFormed := by
  induction body generalizing state with
  | nil => exact h
  | cons statement rest ih =>
    obtain ⟨hstatement, hrest⟩ := List.forall_mem_cons.1 htokens
    have hfirst : (statement.execute state).state.WellFormed :=
      (h.note (.executed statement)).perform hstatement
    rw [Dataflow.executeAll]
    split
    · next middle hmiddle =>
      rw [hmiddle] at hfirst
      exact ih hfirst hrest
    · exact hfirst

/-! ## Dispatches -/

theorem emit (h : state.WellFormed) (listener : Option Listener) (value : Value) :
    (state.emit listener value).state.WellFormed := by
  cases listener with
  | none => exact h.of_eq rfl rfl rfl
  | some listener =>
    simp only [State.emit]
    cases listener.refuses state.told value with
    | none => exact h.of_eq rfl rfl rfl
    | some refusal => exact h.of_eq rfl rfl rfl

theorem runAdd (h : state.WellFormed) (call : PendingCall) :
    (state.runAdd call).state.WellFormed := by
  rw [State.runAdd]
  split
  · next left right target rest hbindings =>
    split
    · next n hsum => exact h.write target.name trivial (by simp)
    · exact h
  · exact h

theorem runPrint (h : state.WellFormed) (listener : Option Listener) (call : PendingCall) :
    (state.runPrint listener call).state.WellFormed := by
  rw [State.runPrint]
  split
  · next source rest hbindings =>
    cases state.store.read source.name with
    | ok value => exact h.emit listener value
    | error fault => exact h
  · exact h

/-- A scan, and the removal of the call it selects if there is one. -/
theorem pop (h : state.WellFormed) : state.pop.1.WellFormed := by
  have hselect : state.select.1.WellFormed := by
    rw [State.select, State.noteSkipped_eq]
    exact h.of_eq rfl rfl rfl
  rw [State.pop]
  cases hscan : state.select with
  | mk scanned found =>
    rw [hscan] at hselect
    cases found with
    | error fault => exact hselect
    | ok scan =>
      refine ⟨hselect.store, ?_, hselect.bindings⟩
      intro call hcall
      apply hselect.queue call
      cases scan with
      | empty => exact hcall
      | stuck => exact hcall
      | runnable index selected => exact List.mem_of_mem_eraseIdx hcall

/-- A scan and the removal of the call it selects. -/
theorem taking (h : state.WellFormed) {before after : Queue} {call : PendingCall}
    (hqueue : state.queue = before ++ call :: after) : (state.taking before after).WellFormed := by
  rw [State.taking_eq]
  refine ⟨h.store, ?_, h.bindings⟩
  intro other hother
  apply h.queue other
  rw [hqueue]
  rcases List.mem_append.1 hother with hbefore | hafter
  · exact List.mem_append_left _ hbefore
  · exact List.mem_append_right _ (List.mem_cons_of_mem _ hafter)

variable {setup : Setup} (hprogram : setup.program.WellFormed)
include hprogram

theorem runFunction (h : state.WellFormed) (name : String) :
    (setup.runFunction name state).state.WellFormed := by
  rw [Setup.runFunction, Program.function]
  cases hfind : setup.program.find? name with
  | none => exact h
  | some f =>
    exact (h.note (.entered name)).executeAll (hprogram f (List.mem_of_find?_eq_some hfind))

theorem dispatch (h : state.WellFormed) (call : PendingCall) :
    (setup.dispatch call state).state.WellFormed := by
  cases hlimit : setup.exhausted state with
  | true =>
    rw [Setup.dispatch_of_exhausted call hlimit]
    exact h
  | false =>
    have hopening : (state.opening call).WellFormed := h.of_eq rfl rfl rfl
    rw [Setup.dispatch_of_not_exhausted call hlimit]
    cases Intrinsic.ofName? call.function with
    | none => exact hopening.runFunction hprogram call.function
    | some intrinsic =>
      cases intrinsic with
      | add => exact (hopening.note (.intrinsic call)).runAdd call
      | print => exact (hopening.note (.intrinsic call)).runPrint setup.listener call

/-- One step of draining. -/
theorem drain (h : state.WellFormed) : (setup.drain state).state.WellFormed := by
  have hskipped : ∀ skipped, (state.noteSkipped skipped).WellFormed := by
    intro skipped
    rw [State.noteSkipped_eq]
    exact h.of_eq rfl rfl rfl
  have hstep := setup.drained state
  generalize setup.drain state = next at hstep ⊢
  cases hstep with
  | halted hqueue => exact h.move .halted
  | stuck hqueue hnone => exact (hskipped state.queue).move .deadlocked
  | @faulty before after call fault hqueue hbefore hcall => exact (hskipped before).move .failed
  | @dispatched before after call hqueue hbefore hcall =>
    have hdispatch := (h.taking hqueue).dispatch hprogram call
    rcases Run.state_afterDispatch (setup.dispatch call (state.taking before after)) with
      hstate | hstate
    · rw [hstate]
      exact hdispatch
    · rw [hstate]
      exact hdispatch.move .failed

end State.WellFormed

namespace Setup

section Runs

variable {setup : Setup} (hprogram : setup.program.WellFormed)
include hprogram

theorem wellFormed_start (journal : Array Event) :
    (setup.start (.initial journal)).state.WellFormed := by
  have hentry := ((State.WellFormed.initial journal).move .running).runFunction hprogram entryName
  obtain ⟨phase, hphase⟩ := Run.state_afterEntry
    (setup.runFunction entryName ((State.initial journal).move .running))
  rw [setup.start_eq_afterEntry journal, hphase]
  exact hentry.move phase

theorem wellFormed_advance (journal : Array Event) (steps : Nat) :
    (setup.advance steps (setup.start (.initial journal))).state.WellFormed := by
  refine advance_keep (P := fun run => run.state.WellFormed) ?_ steps
    (wellFormed_start hprogram journal)
  intro run h
  cases run with
  | ended outcome => exact h
  | draining state => exact State.WellFormed.drain hprogram h

end Runs

/-- The states that a run passes: that of the new machine, those at the scheduling points and the
last one, and those in the course of the entry function and of each function that is dispatched. A
body that stops at a failure stays in the state of the failure. -/
inductive Passes (setup : Setup) (journal : Array Event) : State → Prop where
  | new : Passes setup journal (.initial journal)
  | entry {f : Function} (hfind : setup.program.find? entryName = some f) (count : Nat) :
      Passes setup journal
        (executeAll (f.body.take count)
          (((State.initial journal).move .running).note (.entered entryName))).state
  | scheduled (steps : Nat) :
      Passes setup journal (setup.advance steps (setup.start (.initial journal))).state
  | body {steps index : Nat} {state popped : State} {call : PendingCall} {f : Function}
      (hreach : setup.advance steps (setup.start (.initial journal)) = .draining state)
      (hpop : state.pop = (popped, .ok (.runnable index call)))
      (hfree : setup.exhausted popped = false)
      (hname : Intrinsic.ofName? call.function = none)
      (hfind : setup.program.find? call.function = some f) (count : Nat) :
      Passes setup journal
        (executeAll (f.body.take count)
          ((popped.opening call).note (.entered call.function))).state

/-- Every state that a run passes is well formed. -/
theorem Passes.wellFormed {setup : Setup} (hprogram : setup.program.WellFormed)
    {journal : Array Event} {state : State} (h : setup.Passes journal state) :
    state.WellFormed := by
  -- part of a body has tokens for operands as the whole body has
  have hbody : ∀ {name : String} {f : Function}, setup.program.find? name = some f →
      ∀ count, ∀ statement ∈ f.body.take count,
        ∀ operand ∈ statement.instruction.operands, IsToken operand := by
    intro name f hfind count statement hstatement
    exact hprogram f (List.mem_of_find?_eq_some hfind) statement (List.mem_of_mem_take hstatement)
  cases h with
  | new => exact .initial journal
  | entry hfind count =>
    have hentry := ((State.WellFormed.initial journal).move .running).note (.entered entryName)
    exact hentry.executeAll (hbody hfind count)
  | scheduled steps => exact wellFormed_advance hprogram journal steps
  | @body steps index scheduled popped call f hreach hpop hfree hname hfind count =>
    have hscheduled := wellFormed_advance hprogram journal steps
    rw [hreach] at hscheduled
    have hpopped : popped.WellFormed := by
      have hstate := State.WellFormed.pop hscheduled
      simp only [Run.state, hpop] at hstate
      exact hstate
    have hopening : (popped.opening call).WellFormed := hpopped.of_eq rfl rfl rfl
    exact (hopening.note (.entered call.function)).executeAll (hbody hfind count)

/-! ## Missing values -/

/-- A call that is selected reads a missing value only through an output. -/
theorem output_of_absent {state : State} (h : state.WellFormed) {before after : Queue}
    {call : PendingCall} (hselects : state.Selects before call after) {b : Binding}
    (hb : b ∈ call.bindings) {v : Variable} (hfind : state.store.find? b.name = some v)
    (habsent : v.value = .absent) : b.direction = .output := by
  cases hdirection : b.direction with
  | output => rfl
  | input =>
    -- an input is ready, and what is ready has a value
    obtain ⟨w, hw, -, hready⟩ := eligibleBindings_eq_ok_true_iff.1 hselects.eligible b hb
    obtain rfl := Option.some.inj (hfind.symm.trans hw)
    exact absurd habsent ((h.store.find? hfind).ready.1 (hready hdirection))

/-- A step that ends a run at an invalid operand carries out an `add`, and the operand is one of the
first two variables of the call. -/
theorem drain_invalidOperand {setup : Setup} {state : State} {outcome : Outcome} {name : String}
    {value : Value} {line : Option Int} (hend : setup.drain state = .ended outcome)
    (hfailure : outcome.failure = some (.fault ⟨.invalidOperand name value, line⟩)) :
    ∃ before after call left right rest b v, state.Selects before call after ∧
      call.function = Intrinsic.add.name ∧ call.bindings = left :: right :: rest ∧
      (b = left ∨ b = right) ∧ b.name = name ∧ state.store.find? b.name = some v ∧
      v.value = value := by
  have hstep := setup.drained state
  rw [hend] at hstep
  generalize hnext : Run.ended outcome = next at hstep
  cases hstep with
  | halted hqueue =>
    obtain rfl := Run.ended.inj hnext
    cases hfailure
  | stuck hqueue hnone =>
    obtain rfl := Run.ended.inj hnext
    cases hfailure
  | faulty hqueue hbefore hcall =>
    obtain rfl := Run.ended.inj hnext
    obtain ⟨b, -, -, rfl⟩ := exists_of_eligibleBindings_eq_error hcall
    cases hfailure
  | @dispatched before after call hqueue hbefore hcall =>
    -- of the failures of a dispatch only one is about an operand
    cases hlimit : setup.exhausted (state.taking before after) with
    | true =>
      rw [dispatch_of_exhausted call hlimit] at hnext
      obtain rfl := Run.ended.inj hnext
      have hreports := Failure.reportsLimit_overLimit setup.limit
      rw [Option.some.inj hfailure] at hreports
      cases hreports
    | false =>
      have hstore : (state.taking before after).store = state.store := by
        rw [State.taking_eq]
      cases hdispatch : setup.dispatch call (state.taking before after) with
      | mk last failure =>
        rw [hdispatch] at hnext
        cases failure with
        | none => cases hnext
        | some failure =>
          obtain rfl := Run.ended.inj hnext
          obtain rfl := Option.some.inj hfailure
          have hcause := dispatch_failure hlimit (congrArg Outcome.failure hdispatch)
          rw [hstore] at hcause
          cases hcause with
          | statement hname hstatement => cases hstatement
          | @invalidOperand left right b rest v hname hbindings hb hfind hvalue =>
            exact ⟨before, after, call, left, right, rest, b, v, ⟨hqueue, hbefore, hcall⟩,
              Intrinsic.ofName?_eq_some_iff.1 hname, hbindings, hb, rfl, hfind, rfl⟩

/-- Every state that a run of a parsed program passes is well formed. Hence a missing value is only
ever emitted by a `print` whose first binding is an output, and is an invalid operand only of an
`add` that has it through an output among its first two bindings. -/
theorem parsed_run_wellFormed (setup : Setup) (journal : Array Event) {skipBlank : Bool}
    {lines : List String} (hparse : Program.parse skipBlank lines = .ok setup.program) :
    (∀ state, setup.Passes journal state → state.WellFormed) ∧
    (∀ sink steps position,
      ((setup.advance steps (setup.start (.initial journal))).state.received sink)[position]? =
        some .absent →
      ∃ earlier state index call source rest, earlier < steps ∧
        setup.advance earlier (setup.start (.initial journal)) = .draining state ∧
        (state.received sink).size = position ∧
        (setup.drain state).state.received sink = (state.received sink).push .absent ∧
        state.queue.select state.store = .ok (.runnable index call) ∧
        call.function = "print" ∧ call.bindings = source :: rest ∧ source.direction = .output) ∧
    (∀ steps outcome name line, setup.run steps (.initial journal) = some outcome →
      outcome.failure = some (.fault ⟨.invalidOperand name .absent, line⟩) →
      ∃ earlier state index call left right rest,
        setup.advance earlier (setup.start (.initial journal)) = .draining state ∧
        setup.drain state = .ended outcome ∧
        state.queue.select state.store = .ok (.runnable index call) ∧
        call.function = "add" ∧ call.bindings = left :: right :: rest ∧
        (left.name = name ∧ left.direction = .output ∨
          right.name = name ∧ right.direction = .output)) := by
  have hprogram := Program.wellFormed_of_parse hparse
  have hscheduled : ∀ {steps state},
      setup.advance steps (setup.start (.initial journal)) = .draining state →
      state.WellFormed := by
    intro steps state hreach
    have hstate := wellFormed_advance hprogram journal steps
    rw [hreach] at hstate
    exact hstate
  refine ⟨fun state hstate => hstate.wellFormed hprogram, ?_, ?_⟩
  · intro sink steps position habsent
    obtain ⟨earlier, state, call, source, hlt, hreach, hsize, hprints, hpushed⟩ :=
      setup.exists_print journal sink habsent
    obtain ⟨before, after, hselects⟩ := hprints.selected
    obtain ⟨rest, hbindings⟩ := hprints.first
    obtain ⟨v, hfind, hvalue⟩ := Store.read_eq_ok_iff.1 hprints.value
    have hsource : source ∈ call.bindings := by
      rw [hbindings]
      exact List.mem_cons_self
    exact ⟨earlier, state, before.length, call, source, rest, hlt, hreach, hsize, hpushed,
      hselects.select_eq, hprints.function, hbindings,
      output_of_absent (hscheduled hreach) hselects hsource hfind hvalue⟩
  · intro steps outcome name line hrun hfailure
    rcases exists_last_step (run_eq_some_iff.1 hrun) with hstart | ⟨earlier, state, -, hreach, hend⟩
    · -- the entry function carries out no call
      rcases start_failure hstart hfailure with ⟨fault, hfault, hcause⟩ | hunknown
      · obtain rfl := Failure.fault.inj hfault
        cases hcause
      · cases hunknown
    · obtain ⟨before, after, call, left, right, rest, b, v, hselects, hfunction, hbindings, hb, rfl,
        hfind, hvalue⟩ := drain_invalidOperand hend hfailure
      have hdirection : b ∈ call.bindings → b.direction = .output := by
        intro hmem
        exact output_of_absent (hscheduled hreach) hselects hmem hfind hvalue
      refine ⟨earlier, state, before.length, call, left, right, rest, hreach, hend,
        hselects.select_eq, hfunction, hbindings, ?_⟩
      rcases hb with rfl | rfl
      · exact Or.inl ⟨rfl, hdirection (by simp [hbindings])⟩
      · exact Or.inr ⟨rfl, hdirection (by simp [hbindings])⟩

/-- The lines of a program that reads a variable without a value through outputs, in a `print` and
in an `add`. -/
def blindReads : List String :=
  ["- _entry", "var a int", "bind out a", "call print", "bind out a", "bind out a", "bind out a",
    "call add", "---"]

/-- The `print` emits a missing value, and the `add` fails at it. -/
theorem parsed_run_wellFormed_blind_reads :
    ∃ setup : Setup, Program.parse false blindReads = .ok setup.program ∧
      ∃ outcome, setup.run 2 (.initial #[]) = some outcome ∧ outcome.state.WellFormed ∧
        (∃ state index call source rest,
          setup.advance 0 (setup.start (.initial #[])) = .draining state ∧
          (setup.drain state).state.output = #[.absent] ∧
          state.queue.select state.store = .ok (.runnable index call) ∧
          call.bindings = source :: rest ∧ source.direction = .output) ∧
        ∃ state index call left right rest, setup.drain state = .ended outcome ∧
          state.queue.select state.store = .ok (.runnable index call) ∧
          call.bindings = left :: right :: rest ∧
          (left.direction = .output ∨ right.direction = .output) := by
  obtain ⟨setup, hparse, hprinted, outcome, hrun, hfailure⟩ :
      ∃ setup : Setup, Program.parse false blindReads = .ok setup.program ∧
        ((setup.advance 1 (setup.start (.initial #[]))).state.received .output)[0]? =
          some .absent ∧
        ∃ outcome, setup.run 2 (.initial #[]) = some outcome ∧
          outcome.failure = some (.fault ⟨.invalidOperand "a" .absent, none⟩) :=
    ⟨⟨_, 0, none⟩, rfl, rfl, _, rfl, rfl⟩
  obtain ⟨hpasses, hemits, hoperand⟩ := setup.parsed_run_wellFormed #[] hparse
  have hlast := hpasses _ (.scheduled 2)
  rw [run_eq_some_iff.1 hrun] at hlast
  refine ⟨setup, hparse, outcome, hrun, hlast, ?_, ?_⟩
  · obtain ⟨earlier, state, index, call, source, rest, hlt, hreach, hsize, hpushed, hselect, -,
      hbindings, hdirection⟩ := hemits .output 1 0 hprinted
    obtain rfl : earlier = 0 := by omega
    have hempty : state.received .output = #[] := Array.eq_empty_of_size_eq_zero hsize
    rw [hempty] at hpushed
    exact ⟨state, index, call, source, rest, hreach, hpushed, hselect, hbindings, hdirection⟩
  · obtain ⟨-, state, index, call, left, right, rest, -, hend, hselect, -, hbindings, hout⟩ :=
      hoperand 2 outcome "a" none hrun hfailure
    exact ⟨state, index, call, left, right, rest, hend, hselect, hbindings,
      hout.imp And.right And.right⟩

end Setup

end Dataflow
