import Dataflow.Proofs.Accumulation

/-!
# Statements that fail and bodies that stop

A statement that fails has looked something up in vain and changed nothing yet: all that is left of
it is its record in the journal (`Statement.execute_stopped`). A body therefore stops in the state
that the statements in front of the failing one leave (`executeAll_cases`).

What complete statements leave is told by `State.After`: one more call in the queue for each `call`
among them, and no change to a variable that none of them names as its target. Calls are queued and
not carried out, so the statements that the journal records are those of the body itself.

Main statement: `Setup.bodies_stop_cleanly`.
-/

set_option autoImplicit false

namespace Dataflow

/-! ## Failures -/

section Failures

variable {state : State} {failure : Failure}

theorem State.write_stopped {name : String} {value : Value} {ready : Bool}
    (h : (state.write name value ready).failure = some failure) :
    (state.write name value ready).state = state := by
  rw [State.write] at h ⊢
  cases hwrite : state.store.write name value ready with
  | ok store =>
    rw [hwrite] at h
    cases h
  | error fault => rfl

theorem State.updateStore_stopped {result : Except Fault Store}
    (h : (state.updateStore result).failure = some failure) :
    (state.updateStore result).state = state := by
  cases result with
  | ok store => cases h
  | error fault => rfl

/-- An instruction that fails leaves the state as it is. -/
theorem Instruction.perform_stopped {instruction : Instruction}
    (h : (instruction.perform state).failure = some failure) :
    (instruction.perform state).state = state := by
  cases instruction with
  | declare name type => exact State.updateStore_stopped h
  | assign name literal => exact State.write_stopped h
  | bind b => cases h
  | call function => cases h
  | copy target source =>
    -- the source is looked up before the target is written, and both may be missing
    rw [Instruction.perform] at h ⊢
    cases hget : state.store.get source with
    | ok v =>
      rw [hget] at h
      exact State.write_stopped h
    | error fault => rfl
  | delete name => exact State.updateStore_stopped h

/-- A statement that fails is recorded and leaves the state as it is. -/
theorem Statement.execute_stopped {statement : Statement}
    (h : (statement.execute state).failure = some failure) :
    (statement.execute state).state = state.note (.executed statement) := by
  obtain ⟨original, hperform, -⟩ := Option.map_eq_some_iff.1 h
  exact Instruction.perform_stopped hperform

end Failures

/-- A body is carried out to its end, or stops in the state that the statements in front of a failing
one leave. -/
theorem executeAll_cases (body : List Statement) (state : State) :
    ∃ performed middle, executeAll performed state = .done middle ∧
      ((performed = body ∧ executeAll body state = .done middle) ∨
        ∃ statement after failure, body = performed ++ statement :: after ∧
          (statement.execute middle).failure = some failure ∧
          executeAll body state = .stopped (middle.note (.executed statement)) failure) := by
  cases hfailure : (executeAll body state).failure with
  | none =>
    have hdone := Outcome.eq_done hfailure
    exact ⟨body, _, hdone, Or.inl ⟨rfl, hdone⟩⟩
  | some failure =>
    obtain ⟨statement, @⟨before, after, middle, rfl, hbefore, hfails⟩⟩ :=
      executeAll_failure_iff.1 hfailure
    refine ⟨before, middle, hbefore, Or.inr ⟨statement, after, failure, rfl, hfails, ?_⟩⟩
    rw [executeAll_append hbefore, executeAll_cons_stopped hfails, Outcome.stopped, ← hfails,
      ← Statement.execute_stopped hfails]

/-! ## Targets -/

/-- The variable that an instruction declares, writes or removes. -/
def Instruction.target? : Instruction → Option String
  | .declare name _ => some name
  | .assign name _ => some name
  | .bind _ => none
  | .call _ => none
  | .copy target _ => some target
  | .delete name => some name

/-- The variable that a statement declares, writes or removes. -/
def Statement.target? (statement : Statement) : Option String :=
  statement.instruction.target?

/-- The variables that statements declare, write or remove. -/
def Trace.targets (trace : Trace) : List String := trace.filterMap Statement.target?

namespace Store

/-- The variables of other names than the given ones, in order. -/
def others (store : Store) (names : List String) : List Variable :=
  store.entries.filter fun v => v.name ∉ names

variable {store store' : Store} {names : List String} {name : String}

theorem others_declare {type : String} (h : store.declare name type = .ok store')
    (hname : name ∈ names) : store'.others names = store.others names := by
  rw [declare] at h
  split at h
  · cases h
  · obtain rfl := Except.ok.inj h
    simp [others, Variable.fresh, hname]

theorem others_write {value : Value} {ready : Bool}
    (h : store.write name value ready = .ok store') (hname : name ∈ names) :
    store'.others names = store.others names := by
  obtain ⟨-, rfl⟩ := write_eq_ok_iff.1 h
  rw [others, others, modify, List.filter_map]
  -- a change in place keeps the name, and the variable that is changed is left out
  have hcomp : ((fun v : Variable => decide (v.name ∉ names)) ∘
      fun v => if v.name = name then { v with value, ready } else v) =
        fun v => decide (v.name ∉ names) := by
    funext v
    rw [Function.comp_apply]
    split
    · rfl
    · rfl
  rw [hcomp]
  refine (List.map_congr_left fun v hv => ?_).trans (List.map_id _)
  have hother : v.name ∉ names := of_decide_eq_true (List.mem_filter.1 hv).2
  have hne : v.name ≠ name := by
    rintro rfl
    exact hother hname
  exact if_neg hne

theorem others_delete (h : store.delete name = .ok store') (hname : name ∈ names) :
    store'.others names = store.others names := by
  rw [delete] at h
  split at h
  · obtain rfl := Except.ok.inj h
    rw [others, others, List.filter_filter]
    refine List.filter_congr fun v _ => ?_
    by_cases hv : v.name = name
    · simp [hv, hname]
    · simp [hv]
  · cases h

/-- A variable of another name is found among the others. -/
theorem find?_eq_of_others (h : store'.others names = store.others names) (hname : name ∉ names) :
    store'.find? name = store.find? name := by
  have hothers : ∀ store : Store,
      store.find? name = (store.others names).find? fun v => decide (v.name = name) := by
    intro store
    rw [others, List.find?_filter, find?]
    congr 1
    funext v
    by_cases hv : v.name = name
    · simp [hv, hname]
    · simp [hv]
  rw [hothers store', hothers store, h]

end Store

/-! ## What statements leave -/

/-- The statement that an event records. -/
def Event.statement? : Event → Option Statement
  | .executed statement => some statement
  | _ => none

/-- The statements that a state has recorded. -/
def State.recorded (state : State) : Trace := state.journal.toList.filterMap Event.statement?

theorem State.recorded_note (state : State) (event : Event) :
    (state.note event).recorded = state.recorded ++ event.statement?.toList := by
  rw [recorded, recorded, State.note, Array.toList_push, List.filterMap_append]
  cases hevent : event.statement? with
  | none => simp [hevent]
  | some statement => simp [hevent]

/-- What statements leave: a call in the queue for each `call`, the variables that none of them
targets, and their records. -/
structure State.After (later earlier : State) (trace : Trace) : Prop where
  queue : ∃ calls, later.queue = earlier.queue ++ calls ∧
    calls.map PendingCall.function = trace.callees
  store : ∀ names, (∀ name ∈ trace.targets, name ∈ names) →
    later.store.others names = earlier.store.others names
  recorded : later.recorded = earlier.recorded ++ trace

namespace State.After

theorem refl (state : State) : state.After state [] where
  queue := ⟨[], (List.append_nil _).symm, rfl⟩
  store := fun _ _ => rfl
  recorded := (List.append_nil _).symm

theorem trans {later middle earlier : State} {first second : Trace}
    (hfirst : middle.After earlier first) (hsecond : later.After middle second) :
    later.After earlier (first ++ second) where
  queue := by
    obtain ⟨calls, hqueue, hcalls⟩ := hfirst.queue
    obtain ⟨further, hfurther, hfunctions⟩ := hsecond.queue
    refine ⟨calls ++ further, by rw [hfurther, hqueue, List.append_assoc], ?_⟩
    rw [List.map_append, hcalls, hfunctions, Trace.callees, Trace.callees, Trace.callees,
      List.filterMap_append]
  store := by
    intro names hnames
    rw [Trace.targets, List.filterMap_append, List.forall_mem_append] at hnames
    exact (hsecond.store names hnames.2).trans (hfirst.store names hnames.1)
  recorded := by
    rw [hsecond.recorded, hfirst.recorded, List.append_assoc]

end State.After

section Instructions

variable (state : State)

theorem State.write_recorded (name : String) (value : Value) (ready : Bool) :
    (state.write name value ready).state.recorded = state.recorded := by
  rw [State.write]
  cases state.store.write name value ready with
  | error fault => rfl
  | ok store =>
    refine (State.recorded_note _ _).trans ?_
    exact List.append_nil _

theorem State.updateStore_recorded (result : Except Fault Store) :
    (state.updateStore result).state.recorded = state.recorded := by
  cases result with
  | error fault => rfl
  | ok store => rfl

/-- What an instruction records is no statement. -/
theorem Instruction.perform_recorded (instruction : Instruction) :
    (instruction.perform state).state.recorded = state.recorded := by
  cases instruction with
  | declare name type => exact state.updateStore_recorded _
  | assign name literal => exact state.write_recorded name (.text literal) true
  | bind b => rfl
  | call function =>
    refine (State.recorded_note _ _).trans ?_
    exact List.append_nil _
  | copy target source =>
    rw [Instruction.perform]
    cases state.store.get source with
    | error fault => rfl
    | ok v => exact state.write_recorded target v.value v.ready
  | delete name => exact state.updateStore_recorded _

theorem State.write_others {names : List String} {name : String} (hname : name ∈ names)
    (value : Value) (ready : Bool) :
    (state.write name value ready).state.store.others names = state.store.others names := by
  rw [State.write]
  cases hwrite : state.store.write name value ready with
  | error fault => rfl
  | ok store => exact Store.others_write hwrite hname

/-- An instruction changes no variable but its target. -/
theorem Instruction.perform_others (instruction : Instruction) {names : List String}
    (h : ∀ name, instruction.target? = some name → name ∈ names) :
    (instruction.perform state).state.store.others names = state.store.others names := by
  cases instruction with
  | declare name type =>
    rw [Instruction.perform]
    cases hdeclare : state.store.declare name type with
    | error fault => rfl
    | ok store => exact Store.others_declare hdeclare (h name rfl)
  | assign name literal => exact state.write_others (h name rfl) (.text literal) true
  | bind b => rfl
  | call function => rfl
  | copy target source =>
    rw [Instruction.perform]
    cases state.store.get source with
    | error fault => rfl
    | ok v => exact state.write_others (h target rfl) v.value v.ready
  | delete name =>
    rw [Instruction.perform]
    cases hdelete : state.store.delete name with
    | error fault => rfl
    | ok store => exact Store.others_delete hdelete (h name rfl)

theorem Statement.execute_after (statement : Statement) :
    (statement.execute state).state.After state [statement] where
  queue := by
    obtain ⟨history, hrecords, -, hfunctions⟩ := statement.execute_records state
    refine ⟨history.enqueued, hrecords.queue, hfunctions.trans ?_⟩
    rw [Trace.callees, List.filterMap_cons]
    cases statement.callee? with
    | none => rfl
    | some function => rfl
  store := by
    intro names hnames
    refine statement.instruction.perform_others _ fun name hname => hnames name ?_
    exact List.mem_filterMap.2 ⟨statement, List.mem_singleton_self statement, hname⟩
  recorded := by
    refine (statement.instruction.perform_recorded _).trans ?_
    exact state.recorded_note (.executed statement)

end Instructions

/-- Complete statements leave what each of them leaves. -/
theorem executeAll_after {body : List Statement} {state next : State}
    (h : executeAll body state = .done next) : next.After state body := by
  induction body generalizing state with
  | nil =>
    obtain rfl : state = next := congrArg Outcome.state h
    exact .refl state
  | cons statement rest ih =>
    have hfirst := statement.execute_after state
    cases hfailure : (statement.execute state).failure with
    | some failure =>
      rw [executeAll_cons_stopped hfailure] at h
      rw [h] at hfailure
      cases hfailure
    | none =>
      rw [executeAll_cons_done (Outcome.eq_done hfailure)] at h
      exact hfirst.trans (ih h)

namespace Setup

/-- A statement that fails leaves nothing but its record. A function of the program is carried out to
its end, or stops in the state that the statements in front of a failing one leave. Either way it
prints nothing, dispatches nothing and stays in its phase; it appends one call to the queue for each
`call` that was performed, and changes no variable that no performed statement targets; and the
statements it records are its own. -/
theorem bodies_stop_cleanly (setup : Setup) :
    (∀ (statement : Statement) (state : State) (failure : Failure),
      (statement.execute state).failure = some failure →
        (statement.execute state).state = state.note (.executed statement)) ∧
    ∀ (name : String) (f : Function) (state : State), setup.program.find? name = some f →
      ∃ performed middle, executeAll performed (state.note (.entered name)) = .done middle ∧
        ((performed = f.body ∧ setup.runFunction name state = .done middle) ∨
          ∃ statement after failure, f.body = performed ++ statement :: after ∧
            (statement.execute middle).failure = some failure ∧
            setup.runFunction name state =
              .stopped (middle.note (.executed statement)) failure) ∧
        let later := (setup.runFunction name state).state
        later.output = state.output ∧ later.told = state.told ∧
        later.dispatches = state.dispatches ∧ later.phase = state.phase ∧
        (∃ calls, later.queue = state.queue ++ calls ∧
          calls.map PendingCall.function = Trace.callees performed) ∧
        later.store.others (Trace.targets performed) =
          state.store.others (Trace.targets performed) ∧
        (∀ other, other ∉ Trace.targets performed →
          later.store.find? other = state.store.find? other) ∧
        ∃ own, own <+: f.body ∧ later.recorded = state.recorded ++ own := by
  refine ⟨fun statement state failure h => Statement.execute_stopped h, ?_⟩
  intro name f state hfind
  have hrun := runFunction_of_find? hfind state
  have hexecuted := executeAll_executed f.body (state.note (.entered name))
  obtain ⟨performed, middle, hperformed, hends⟩ :=
    executeAll_cases f.body (state.note (.entered name))
  have hafter := executeAll_after hperformed
  have hentered : (state.note (.entered name)).recorded = state.recorded :=
    (state.recorded_note _).trans (List.append_nil _)
  rw [← hrun] at hexecuted hends
  -- the record of a statement that fails is all that tells the last state from `middle`
  obtain ⟨hqueue, hstore, own, hown, hrecorded⟩ :
      (setup.runFunction name state).state.queue = middle.queue ∧
        (setup.runFunction name state).state.store = middle.store ∧
        ∃ own, own <+: f.body ∧
          (setup.runFunction name state).state.recorded = state.recorded ++ own := by
    rcases hends with ⟨rfl, hdone⟩ | ⟨statement, after, failure, hbody, -, hstopped⟩
    · rw [hdone]
      refine ⟨rfl, rfl, f.body, List.prefix_rfl, ?_⟩
      rw [← hentered]
      exact hafter.recorded
    · rw [hstopped]
      refine ⟨rfl, rfl, performed ++ [statement], ⟨after, by simp [hbody]⟩, ?_⟩
      refine (middle.recorded_note _).trans ?_
      rw [hafter.recorded, hentered, List.append_assoc]
      rfl
  have hothers : (setup.runFunction name state).state.store.others (Trace.targets performed) =
      state.store.others (Trace.targets performed) := by
    rw [hstore]
    exact hafter.store _ fun _ h => h
  refine ⟨performed, middle, hperformed, hends, hexecuted.output, hexecuted.told,
    hexecuted.dispatches, hexecuted.phase, ?_, hothers, ?_, own, hown, hrecorded⟩
  · rw [hqueue]
    exact hafter.queue
  · intro other hother
    exact Store.find?_eq_of_others hothers hother

/-- A function that declares a variable, makes a call, and then copies to a variable that does not
exist. -/
def copiesIntoNothing : Function :=
  { name := "f"
    lines := []
    body := [⟨.declare "x" "int", "var x int", 2⟩, ⟨.bind ⟨"x", .input⟩, "bind in x", 3⟩,
      ⟨.call "f", "call f", 4⟩, ⟨.copy "y" "x", "copy y x", 5⟩, ⟨.delete "x", "del x", 6⟩]
    line := 1 }

/-- It stops at the copy: the variable and the call are there, and the function that was called was not
carried out. -/
theorem bodies_stop_cleanly_copies_into_nothing :
    let setup : Setup := ⟨⟨[copiesIntoNothing]⟩, 0, none⟩
    setup.program.find? "f" = some copiesIntoNothing ∧
      ∃ performed statement after middle failure,
        copiesIntoNothing.body = performed ++ statement :: after ∧
        executeAll performed ((State.initial #[]).note (.entered "f")) = .done middle ∧
        setup.runFunction "f" (.initial #[]) =
          .stopped (middle.note (.executed statement)) failure ∧
        (setup.runFunction "f" (.initial #[])).state.store.names = ["x"] ∧
        (setup.runFunction "f" (.initial #[])).state.queue = [⟨"f", [⟨"x", .input⟩]⟩] := by
  have hfind : (Setup.mk ⟨[copiesIntoNothing]⟩ 0 none).program.find? "f" =
      some copiesIntoNothing := by
    decide
  have hfails : ((Setup.mk ⟨[copiesIntoNothing]⟩ 0 none).runFunction "f" (.initial #[])).failure ≠
      none := by
    decide +kernel
  obtain ⟨performed, middle, hperformed, hends, -⟩ :=
    (bodies_stop_cleanly ⟨⟨[copiesIntoNothing]⟩, 0, none⟩).2 "f" copiesIntoNothing
      (.initial #[]) hfind
  rcases hends with ⟨-, hdone⟩ | ⟨statement, after, failure, hbody, -, hstopped⟩
  · rw [hdone] at hfails
    exact absurd rfl hfails
  · exact ⟨hfind, performed, statement, after, middle, failure, hbody, hperformed, hstopped,
      by decide +kernel, by decide +kernel⟩

end Setup

end Dataflow
