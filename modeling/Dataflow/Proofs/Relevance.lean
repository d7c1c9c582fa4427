import Dataflow.Proofs.CallGraph

/-!
# The functions that a run depends on

`Program.Needs` holds of the entry function and of what needed functions call, intrinsic functions
apart: these are carried out by the machine even where the program defines one of the same name. A
needed function need not be defined. Every function that is queued in a run is intrinsic or needed
(`Setup.needed_advance`), so two programs that have the same bodies for the needed names take the
same steps (`Setup.advance_withProgram`).

Main statement: `only_needed_functions_matter`.
-/

set_option autoImplicit false

namespace Dataflow

/-! ## Needed functions -/

namespace Program

/-- The body of the function of a given name. -/
def body? (program : Program) (name : String) : Option (List Statement) :=
  (program.find? name).map Function.body

/-- The names that a run of a program may look up. -/
inductive Needs (program : Program) : String → Prop where
  | entry : Needs program entryName
  | callee {caller callee : String} (hcaller : Needs program caller)
      (hcallee : callee ∈ program.callees caller) (hname : Intrinsic.ofName? callee = none) :
      Needs program callee

/-- Runs of two programs agree step by step: they reach the same states, with the same journals, and
end with the same outcomes. -/
def RunsLike (program other : Program) : Prop :=
  ∀ (limit : Int) (listener : Option Listener) (journal : Array Event) (steps : Nat),
    Setup.advance ⟨program, limit, listener⟩ steps
        (Setup.start ⟨program, limit, listener⟩ (.initial journal)) =
      Setup.advance ⟨other, limit, listener⟩ steps
        (Setup.start ⟨other, limit, listener⟩ (.initial journal)) ∧
    Setup.run ⟨program, limit, listener⟩ steps (.initial journal) =
      Setup.run ⟨other, limit, listener⟩ steps (.initial journal)

section Needs

variable {program : Program} {name : String}

/-- No intrinsic function is needed from the program. -/
theorem Needs.ofName?_eq_none (h : program.Needs name) : Intrinsic.ofName? name = none := by
  cases h with
  | entry => rfl
  | callee _ _ hname => exact hname

/-- A name is needed only if it is that of the entry function or is called. -/
theorem Needs.eq_or_called (h : program.Needs name) :
    name = entryName ∨ ∃ caller, name ∈ program.callees caller := by
  cases h with
  | entry => exact Or.inl rfl
  | callee _ hcallee _ => exact Or.inr ⟨_, hcallee⟩

/-- Names that are closed under calls and hold the entry function hold every needed one. -/
theorem Needs.mem_of_closed {names : List String} (hentry : entryName ∈ names)
    (hclosed : ∀ caller ∈ names, ∀ callee ∈ program.callees caller,
      Intrinsic.ofName? callee = none → callee ∈ names)
    (h : program.Needs name) : name ∈ names := by
  induction h with
  | entry => exact hentry
  | @callee caller callee hcaller hcallee hname ih => exact hclosed caller ih callee hcallee hname

/-- Dropping functions leaves the bodies of the others. -/
theorem body?_filter {keep : String → Bool} (h : keep name = true) :
    program.body? name = body? ⟨program.functions.filter fun f => keep f.name⟩ name := by
  rw [body?, body?, find?, find?, List.find?_filter]
  congr 2
  funext f
  by_cases hname : f.name = name
  · simp [hname, h]
  · simp [hname]

theorem name_of_find? {f : Function} (h : program.find? name = some f) : f.name = name := by
  have hname := List.find?_some h
  exact of_decide_eq_true hname

/-- With every name defined once, a function is found wherever it stands. -/
theorem find?_eq_some_iff (hnodup : program.names.Nodup) {f : Function} :
    program.find? name = some f ↔ f ∈ program.functions ∧ f.name = name := by
  constructor
  · intro h
    exact ⟨List.mem_of_find?_eq_some h, name_of_find? h⟩
  · rintro ⟨hmem, rfl⟩
    cases hfind : program.find? f.name with
    | none =>
      have hnone := List.find?_eq_none.1 hfind f hmem
      simp at hnone
    | some other =>
      have hother := List.mem_of_find?_eq_some hfind
      rw [List.inj_on_of_nodup_map hnodup hother hmem (name_of_find? hfind)]

/-- The order of definitions makes no difference to the bodies. -/
theorem body?_perm {functions : List Function} (hnodup : program.names.Nodup)
    (hperm : program.functions.Perm functions) : program.body? name = body? ⟨functions⟩ name := by
  have hother : (Program.mk functions).names.Nodup := (hperm.map Function.name).nodup_iff.1 hnodup
  have hfind : program.find? name = find? ⟨functions⟩ name := by
    apply Option.ext
    intro f
    rw [find?_eq_some_iff hnodup, find?_eq_some_iff hother, hperm.mem_iff]
  rw [body?, body?, hfind]

end Needs

end Program

/-! ## Steps of two programs -/

namespace Setup

/-- A setup with another program. -/
def withProgram (setup : Setup) (program : Program) : Setup := { setup with program }

/-- A function is carried out by its body. -/
theorem runFunction_eq_body? (setup : Setup) (name : String) (state : State) :
    setup.runFunction name state =
      match setup.program.body? name with
      | some body => executeAll body (state.note (.entered name))
      | none => .stopped state (.fault (.unplaced (.unknownFunction name))) := by
  rw [runFunction, Program.function, Program.body?]
  cases setup.program.find? name with
  | some f => rfl
  | none => rfl

section Lockstep

variable {setup : Setup} {other : Program}

theorem runFunction_withProgram {name : String}
    (h : setup.program.body? name = other.body? name) (state : State) :
    (setup.withProgram other).runFunction name state = setup.runFunction name state := by
  rw [runFunction_eq_body?, runFunction_eq_body?, h]
  rfl

/-- A dispatch looks at the program only for a function that is not intrinsic. -/
theorem dispatch_withProgram {call : PendingCall}
    (h : Intrinsic.ofName? call.function = none →
      setup.program.body? call.function = other.body? call.function) (state : State) :
    (setup.withProgram other).dispatch call state = setup.dispatch call state := by
  -- the limit is not the program's
  have hsame : (setup.withProgram other).exhausted state = setup.exhausted state := rfl
  cases hlimit : setup.exhausted state with
  | true =>
    rw [dispatch_of_exhausted call hlimit, dispatch_of_exhausted call (hsame.trans hlimit)]
    rfl
  | false =>
    rw [dispatch_of_not_exhausted call hlimit,
      dispatch_of_not_exhausted call (hsame.trans hlimit)]
    cases hname : Intrinsic.ofName? call.function with
    | some intrinsic => rfl
    | none => exact runFunction_withProgram (h hname) _

/-- So does a step, and only for functions that are queued. -/
theorem drain_withProgram {state : State}
    (h : ∀ call ∈ state.queue, Intrinsic.ofName? call.function = none →
      setup.program.body? call.function = other.body? call.function) :
    (setup.withProgram other).drain state = setup.drain state := by
  have hstep := setup.drained state
  generalize setup.drain state = next at hstep
  cases hstep with
  | halted hqueue => exact (Drained.halted hqueue).drain_eq
  | stuck hqueue hnone => exact (Drained.stuck hqueue hnone).drain_eq
  | faulty hqueue hbefore hcall => exact (Drained.faulty hqueue hbefore hcall).drain_eq
  | @dispatched before after call hqueue hbefore hcall =>
    have hmem : call ∈ state.queue := by
      rw [hqueue]
      exact List.mem_append_right _ List.mem_cons_self
    rw [(Drained.dispatched hqueue hbefore hcall).drain_eq, dispatch_withProgram (h call hmem)]

end Lockstep

end Setup

/-! ## Queued functions are needed -/

/-- The functions that a run has queued are needed, intrinsic ones apart. -/
def Run.Needed (program : Program) : Run → Prop
  | .draining state => ∀ call ∈ state.queue, Intrinsic.ofName? call.function = none →
      program.Needs call.function
  | .ended _ => True

namespace Setup

variable {setup : Setup}

/-- What a needed function calls is needed. -/
theorem needs_of_mem_called {name callee : String} {history : History} {f : Function}
    (hcaller : setup.program.Needs name) (hfind : setup.program.find? name = some f)
    (hcalled : history.called = f.callees) (hmem : callee ∈ history.called)
    (hname : Intrinsic.ofName? callee = none) : setup.program.Needs callee := by
  have hcallee : callee ∈ f.callees := hcalled ▸ hmem
  refine .callee hcaller ?_ hname
  rw [Program.callees, hfind]
  exact hcallee

/-- A call that joined the queue was made by a `call`. -/
theorem function_mem_called {history : History} {call : PendingCall}
    (hfunctions : history.enqueued.map PendingCall.function = history.called)
    (hcall : call ∈ history.enqueued) : call.function ∈ history.called := by
  rw [← hfunctions]
  exact List.mem_map_of_mem hcall

/-- A dispatch queues calls of needed functions only. -/
theorem needed_afterDispatch {state : State} {call : PendingCall}
    (hcall : Intrinsic.ofName? call.function = none → setup.program.Needs call.function)
    (hqueue : ∀ other ∈ state.queue, Intrinsic.ofName? other.function = none →
      setup.program.Needs other.function) :
    (Run.afterDispatch (setup.dispatch call state)).Needed setup.program := by
  cases hlimit : setup.exhausted state with
  | true =>
    rw [dispatch_of_exhausted call hlimit]
    trivial
  | false =>
    obtain ⟨history, hrecords, hfunctions, hcalled⟩ := dispatch_records call hlimit
    cases hdispatch : setup.dispatch call state with
    | mk next failure =>
      rw [hdispatch] at hrecords hcalled
      cases failure with
      | some failure => trivial
      | none =>
        intro other hother hname
        have hother : other ∈ state.queue ++ history.enqueued := hrecords.queue ▸ hother
        rcases List.mem_append.1 hother with hold | hnew
        · exact hqueue other hold hname
        · -- an intrinsic function calls nothing, so the caller is a function of the program
          have hmem := function_mem_called hfunctions hnew
          have hcalled := hcalled rfl
          cases hcaller : Intrinsic.ofName? call.function with
          | some intrinsic =>
            simp only [hcaller] at hcalled
            rw [hcalled] at hmem
            exact absurd hmem List.not_mem_nil
          | none =>
            simp only [hcaller] at hcalled
            obtain ⟨f, hfind, hcallees⟩ := hcalled
            exact needs_of_mem_called (hcall hcaller) hfind hcallees hmem hname

theorem needed_step (run : Run) (h : run.Needed setup.program) :
    (setup.step run).Needed setup.program := by
  cases run with
  | ended outcome => trivial
  | draining state =>
    have hstep := setup.drained state
    rw [step]
    generalize setup.drain state = next at hstep
    cases hstep with
    | halted hqueue => trivial
    | stuck hqueue hnone => trivial
    | faulty hqueue hbefore hcall => trivial
    | @dispatched before after call hqueue hbefore hcall =>
      -- the calls around the one that is taken were queued before
      have hold : ∀ other ∈ before ++ call :: after, Intrinsic.ofName? other.function = none →
          setup.program.Needs other.function := by
        rw [← hqueue]
        exact h
      apply needed_afterDispatch
      · exact hold call (List.mem_append_right _ List.mem_cons_self)
      · intro other hother
        apply hold other
        rcases List.mem_append.1 hother with hfront | hback
        · exact List.mem_append_left _ hfront
        · exact List.mem_append_right _ (List.mem_cons_of_mem _ hback)

theorem needed_start (setup : Setup) (journal : Array Event) :
    (setup.start (.initial journal)).Needed setup.program := by
  obtain ⟨history, hrecords, hfunctions, hcalled⟩ := setup.start_records journal
  cases hstart : setup.start (.initial journal) with
  | ended outcome => trivial
  | draining state =>
    rw [hstart] at hrecords
    obtain ⟨f, hfind, hcallees⟩ := hcalled state hstart
    intro call hcall hname
    have hnew : call ∈ history.enqueued := by
      have hqueue : state.queue = history.enqueued := hrecords.queue
      exact hqueue ▸ hcall
    exact needs_of_mem_called .entry hfind hcallees (function_mem_called hfunctions hnew) hname

theorem needed_advance (setup : Setup) (journal : Array Event) (steps : Nat) :
    (setup.advance steps (setup.start (.initial journal))).Needed setup.program :=
  advance_keep needed_step steps (setup.needed_start journal)

/-! ## Runs of two programs -/

/-- Programs with the same bodies for the needed names take the same steps. -/
theorem advance_withProgram (setup : Setup) {other : Program}
    (h : ∀ name, setup.program.Needs name → setup.program.body? name = other.body? name)
    (journal : Array Event) (steps : Nat) :
    (setup.withProgram other).advance steps
        ((setup.withProgram other).start (.initial journal)) =
      setup.advance steps (setup.start (.initial journal)) := by
  induction steps with
  | zero =>
    rw [advance, advance, start_eq_afterEntry, start_eq_afterEntry,
      runFunction_withProgram (h entryName .entry)]
  | succ steps ih =>
    rw [advance_succ_last, advance_succ_last, ih]
    have hneeded := setup.needed_advance journal steps
    cases hreach : setup.advance steps (setup.start (.initial journal)) with
    | ended outcome => rfl
    | draining state =>
      rw [hreach] at hneeded
      apply drain_withProgram
      intro call hcall hname
      exact h call.function (hneeded call hcall hname)

end Setup

namespace Program

variable {program other : Program}

theorem runsLike_of_body?_eq
    (h : ∀ name, program.Needs name → program.body? name = other.body? name) :
    program.RunsLike other := by
  intro limit listener journal steps
  have hsteps := (Setup.advance_withProgram ⟨program, limit, listener⟩ h journal steps).symm
  exact ⟨hsteps, congrArg Run.outcome? hsteps⟩

/-- Functions that are not needed can be left out. -/
theorem runsLike_filter (keep : String → Bool) (h : ∀ name, program.Needs name → keep name = true) :
    program.RunsLike ⟨program.functions.filter fun f => keep f.name⟩ :=
  runsLike_of_body?_eq fun name hname => body?_filter (h name hname)

/-- Programs that have the same bodies for the names needed by one of them, or both none, run
alike, whatever the limit and the listener. So functions named like intrinsic ones, functions that
are not called and the order of definitions make no difference. -/
theorem only_needed_functions_matter (program : Program) :
    (∀ other : Program,
      (∀ name, program.Needs name → program.body? name = other.body? name) →
        program.RunsLike other) ∧
    program.RunsLike ⟨program.functions.filter fun f => (Intrinsic.ofName? f.name).isNone⟩ ∧
    (∀ name, name ≠ entryName → (∀ caller, name ∉ program.callees caller) →
      program.RunsLike ⟨program.functions.filter fun f => f.name ≠ name⟩) ∧
    (∀ functions : List Function, program.names.Nodup → program.functions.Perm functions →
      program.RunsLike ⟨functions⟩) := by
  refine ⟨fun other => runsLike_of_body?_eq, ?_, ?_, ?_⟩
  · apply runsLike_filter fun name => (Intrinsic.ofName? name).isNone
    intro name hneeds
    rw [hneeds.ofName?_eq_none]
    rfl
  · intro name hentry huncalled
    apply runsLike_filter fun other => other ≠ name
    intro needed hneeds
    rw [decide_eq_true_iff]
    rintro rfl
    rcases hneeds.eq_or_called with rfl | ⟨caller, hcalled⟩
    · exact hentry rfl
    · exact huncalled caller hcalled
  · intro functions hnodup hperm
    exact runsLike_of_body?_eq fun name _ => body?_perm hnodup hperm

/-- The entry function and `show`, which call each other, `print` and a function that is not
defined; `line` is the number of the first header. -/
def shown (line : Nat) : List Function :=
  let place (body : List Instruction) : List Statement :=
    body.map fun instruction => ⟨instruction, "", 0⟩
  [⟨entryName, [], place [.declare "a" "int", .assign "a" "1", .call "show"], line⟩,
    ⟨"show", [], place [.bind ⟨"a", .input⟩, .call "print", .call "lost", .call entryName],
      line + 5⟩]

/-- The same with a `print` of its own, a function that is called from there only, and one that is
not called. -/
def cluttered : Program :=
  ⟨[⟨"print", [], [⟨.call "spare", "", 0⟩], 1⟩, ⟨"spare", [], [⟨.delete "a", "", 0⟩], 4⟩,
    ⟨"idle", [], [⟨.call "show", "", 0⟩], 7⟩] ++ shown 10⟩

/-- The clutter and the order of definitions make no difference. -/
theorem only_needed_functions_matter_cluttered :
    (∀ name, cluttered.Needs name → cluttered.body? name = body? ⟨(shown 1).reverse⟩ name) ∧
      cluttered.RunsLike ⟨(shown 1).reverse⟩ ∧
      (∀ caller, "idle" ∉ cluttered.callees caller) ∧
      cluttered.RunsLike ⟨cluttered.functions.filter fun f => f.name ≠ "idle"⟩ ∧
      cluttered.names.Nodup ∧ cluttered.RunsLike ⟨cluttered.functions.reverse⟩ := by
  obtain ⟨hagree, -, huncalled, horder⟩ := cluttered.only_needed_functions_matter
  have hbodies : ∀ name, cluttered.Needs name →
      cluttered.body? name = body? ⟨(shown 1).reverse⟩ name := by
    intro name hneeds
    have hmem : name ∈ [entryName, "show", "lost"] :=
      hneeds.mem_of_closed (by decide) (by decide)
    have hsame : ∀ name ∈ [entryName, "show", "lost"],
        cluttered.body? name = body? ⟨(shown 1).reverse⟩ name := by decide
    exact hsame name hmem
  have hidle : ∀ caller, "idle" ∉ cluttered.callees caller := by
    intro caller hcalled
    have hnone : ∀ caller ∈ cluttered.names, "idle" ∉ cluttered.callees caller := by decide
    exact hnone caller (mem_names_of_mem_callees hcalled) hcalled
  have hnodup : cluttered.names.Nodup := by decide
  exact ⟨hbodies, hagree _ hbodies, hidle, huncalled "idle" (by decide) hidle, hnodup,
    horder _ hnodup (List.reverse_perm _).symm⟩

end Program

end Dataflow
