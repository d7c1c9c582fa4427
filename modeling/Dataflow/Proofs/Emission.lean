import Dataflow.Proofs.Accounting

/-!
# What runs emit

A printed value joins the output, and the listener is told it if there is one, even if it then
refuses the value. Nothing is emitted but by a dispatched `print`, which emits the value of the
first variable it is bound to (`Setup.drain_emits`). Each value that was emitted in a run therefore
goes back to a scheduling point at which the scan selected such a call (`Setup.exists_print`).
-/

set_option autoImplicit false

namespace Dataflow

/-- Where emitted values go. -/
inductive Sink where
  | output
  | listener

/-- The values that a sink has received. -/
def State.received (state : State) : Sink → Array Value
  | .output => state.output
  | .listener => state.told

/-- What was emitted between two states: nothing, or one value, which the listener was told or
not. -/
inductive State.Emits (later earlier : State) : Option Value → Prop where
  | silent (houtput : later.output = earlier.output) (htold : later.told = earlier.told) :
      Emits later earlier none
  | value {value : Value} (houtput : later.output = earlier.output.push value)
      (htold : later.told = earlier.told ∨ later.told = earlier.told.push value) :
      Emits later earlier (some value)

namespace State.Emits

variable {later middle earlier : State} {emitted : Option Value}

/-- What is silent can be left out in front. -/
theorem after_silent (hfirst : middle.Emits earlier none) (h : later.Emits middle emitted) :
    later.Emits earlier emitted := by
  cases hfirst with
  | silent hfirstOutput hfirstTold =>
    cases h with
    | silent houtput htold => exact .silent (houtput.trans hfirstOutput) (htold.trans hfirstTold)
    | value houtput htold =>
      rw [hfirstOutput] at houtput
      rw [hfirstTold] at htold
      exact .value houtput htold

/-- What is silent can be left out behind. -/
theorem before_silent (h : middle.Emits earlier emitted) (hlast : later.Emits middle none) :
    later.Emits earlier emitted := by
  cases hlast with
  | silent hlastOutput hlastTold =>
    cases h with
    | silent houtput htold => exact .silent (hlastOutput.trans houtput) (hlastTold.trans htold)
    | value houtput htold =>
      rw [← hlastOutput] at houtput
      rw [← hlastTold] at htold
      exact .value houtput htold

/-- A sink receives what was emitted, or nothing. -/
theorem received_eq (h : later.Emits earlier emitted) (sink : Sink) :
    later.received sink = earlier.received sink ∨
      ∃ value, emitted = some value ∧
        later.received sink = (earlier.received sink).push value := by
  cases h with
  | silent houtput htold =>
    cases sink with
    | output => exact Or.inl houtput
    | listener => exact Or.inl htold
  | @value value houtput htold =>
    cases sink with
    | output => exact Or.inr ⟨value, rfl, houtput⟩
    | listener =>
      rcases htold with hkept | htold
      · exact Or.inl hkept
      · exact Or.inr ⟨value, rfl, htold⟩

end State.Emits

/-- Statements emit nothing. -/
theorem Outcome.Executed.emits {outcome : Outcome} {state : State} (h : outcome.Executed state) :
    outcome.state.Emits state none :=
  .silent h.output h.told

theorem State.emit_emits (state : State) (listener : Option Listener) (value : Value) :
    (state.emit listener value).state.Emits state (some value) := by
  cases listener with
  | none => exact .value rfl (Or.inl rfl)
  | some listener =>
    simp only [State.emit]
    cases listener.refuses state.told value with
    | none => exact .value rfl (Or.inr rfl)
    | some refusal =>
      -- a refused value has been printed and told all the same
      exact .value rfl (Or.inr rfl)

theorem State.runAdd_emits (state : State) (call : PendingCall) :
    (state.runAdd call).state.Emits state none := by
  rw [State.runAdd]
  split
  · next left right target rest hbindings =>
    split
    · next n hsum => exact (state.write_executed target.name (.int n) true).emits
    · exact .silent rfl rfl
  · exact .silent rfl rfl

/-- Printing emits the value of the first variable, or fails before that. -/
theorem State.runPrint_emits (state : State) (listener : Option Listener) (call : PendingCall) :
    (state.runPrint listener call).state.Emits state none ∨
      ∃ source rest value, call.bindings = source :: rest ∧
        state.store.read source.name = .ok value ∧
        (state.runPrint listener call).state.Emits state (some value) := by
  rw [State.runPrint]
  split
  · next source rest hbindings =>
    cases hread : state.store.read source.name with
    | error fault => exact Or.inl (.silent rfl rfl)
    | ok value =>
      exact Or.inr ⟨source, rest, value, hbindings, hread, state.emit_emits listener value⟩
  · exact Or.inl (.silent rfl rfl)

theorem Intrinsic.ofName?_eq_some_iff {name : String} {intrinsic : Intrinsic} :
    ofName? name = some intrinsic ↔ name = intrinsic.name := by
  constructor
  · intro h
    rw [ofName?] at h
    split at h
    · next hname => rw [hname, ← Option.some.inj h, Intrinsic.name]
    · split at h
      · next hname => rw [hname, ← Option.some.inj h, Intrinsic.name]
      · cases h
  · rintro rfl
    cases intrinsic with
    | add => rfl
    | print => rfl

/-- The scan of a state selects a `print`, and the first variable that the call is bound to has a
given value. -/
structure State.Prints (state : State) (call : PendingCall) (source : Binding) (value : Value) :
    Prop where
  selected : ∃ before after, state.Selects before call after
  function : call.function = Intrinsic.print.name
  value : state.store.read source.name = .ok value
  first : ∃ rest, call.bindings = source :: rest

namespace Setup

/-- A function of the program emits nothing itself. -/
theorem runFunction_emits (setup : Setup) (name : String) (state : State) :
    (setup.runFunction name state).state.Emits state none := by
  rw [runFunction, Program.function]
  cases setup.program.find? name with
  | none => exact .silent rfl rfl
  | some f =>
    have hnote : (state.note (.entered name)).Emits state none := .silent rfl rfl
    exact hnote.after_silent (executeAll_executed f.body (state.note (.entered name))).emits

/-- A dispatch emits nothing, or is that of a `print` and emits the value of its first variable. -/
theorem dispatch_emits (setup : Setup) (call : PendingCall) (state : State) :
    (setup.dispatch call state).state.Emits state none ∨
      ∃ source rest value, call.function = Intrinsic.print.name ∧
        call.bindings = source :: rest ∧ state.store.read source.name = .ok value ∧
        (setup.dispatch call state).state.Emits state (some value) := by
  cases hlimit : setup.exhausted state with
  | true =>
    rw [dispatch_of_exhausted call hlimit]
    exact Or.inl (.silent rfl rfl)
  | false =>
    have hopening : (state.opening call).Emits state none := .silent rfl rfl
    rw [dispatch_of_not_exhausted call hlimit]
    cases hname : Intrinsic.ofName? call.function with
    | none =>
      have hbody := setup.runFunction_emits call.function (state.opening call)
      exact Or.inl (hopening.after_silent hbody)
    | some intrinsic =>
      have hnote : ((state.opening call).note (.intrinsic call)).Emits state none :=
        .silent rfl rfl
      cases intrinsic with
      | add => exact Or.inl (hnote.after_silent (State.runAdd_emits _ call))
      | print =>
        have hfunction := Intrinsic.ofName?_eq_some_iff.1 hname
        have hprint :=
          State.runPrint_emits ((state.opening call).note (.intrinsic call)) setup.listener call
        rcases hprint with hsilent | ⟨source, rest, value, hbindings, hread, hvalue⟩
        · exact Or.inl (hnote.after_silent hsilent)
        · exact Or.inr ⟨source, rest, value, hfunction, hbindings, hread,
            hnote.after_silent hvalue⟩

/-- A step of draining emits nothing, or carries out a `print` and emits what it prints. -/
theorem drain_emits (setup : Setup) (state : State) :
    (setup.drain state).state.Emits state none ∨
      ∃ call source value, state.Prints call source value ∧
        (setup.drain state).state.Emits state (some value) := by
  have hskipped : ∀ skipped phase,
      ((state.noteSkipped skipped).move phase).Emits state none := by
    intro skipped phase
    rw [State.noteSkipped_eq]
    exact .silent rfl rfl
  have hstep := setup.drained state
  generalize setup.drain state = next at hstep ⊢
  cases hstep with
  | halted hqueue => exact Or.inl (.silent rfl rfl)
  | stuck hqueue hnone => exact Or.inl (hskipped _ _)
  | faulty hqueue hbefore hcall => exact Or.inl (hskipped _ _)
  | @dispatched before after call hqueue hbefore hcall =>
    have htaking : (state.taking before after).Emits state none := by
      rw [State.taking_eq]
      exact .silent rfl rfl
    have hstore : (state.taking before after).store = state.store := by
      rw [State.taking_eq]
    have hafter : ∀ outcome, (Run.afterDispatch outcome).state.Emits outcome.state none := by
      intro outcome
      rcases Run.state_afterDispatch outcome with hstate | hstate
      · rw [hstate]
        exact .silent rfl rfl
      · rw [hstate]
        exact .silent rfl rfl
    rcases setup.dispatch_emits call (state.taking before after) with
      hsilent | ⟨source, rest, value, hfunction, hbindings, hread, hvalue⟩
    · exact Or.inl ((htaking.after_silent hsilent).before_silent (hafter _))
    · rw [hstore] at hread
      exact Or.inr ⟨call, source, value,
        ⟨⟨before, after, hqueue, hbefore, hcall⟩, hfunction, hread, ⟨rest, hbindings⟩⟩,
        (htaking.after_silent hvalue).before_silent (hafter _)⟩

/-- A sink receives nothing in a step of draining, or what a `print` prints. -/
theorem drain_received (setup : Setup) (state : State) (sink : Sink) :
    (setup.drain state).state.received sink = state.received sink ∨
      ∃ call source value, state.Prints call source value ∧
        (setup.drain state).state.received sink = (state.received sink).push value := by
  rcases setup.drain_emits state with hsilent | ⟨call, source, value, hprints, hemits⟩
  · rcases hsilent.received_eq sink with hkept | ⟨value, hvalue, -⟩
    · exact Or.inl hkept
    · cases hvalue
  · rcases hemits.received_eq sink with hkept | ⟨same, hsame, hpushed⟩
    · exact Or.inl hkept
    · obtain rfl := Option.some.inj hsame
      exact Or.inr ⟨call, source, value, hprints, hpushed⟩

/-! ## Whole runs -/

/-- The entry function emits nothing. -/
theorem received_start (setup : Setup) (journal : Array Event) (sink : Sink) :
    (setup.start (.initial journal)).state.received sink = #[] := by
  have hmove : ((State.initial journal).move .running).Emits (.initial journal) none :=
    .silent rfl rfl
  have hentry := hmove.after_silent
    (setup.runFunction_emits entryName ((State.initial journal).move .running))
  obtain ⟨phase, hphase⟩ := Run.state_afterEntry
    (setup.runFunction entryName ((State.initial journal).move .running))
  have hstart : (setup.start (.initial journal)).state.Emits (.initial journal) none := by
    rw [setup.start_eq_afterEntry journal, hphase]
    exact hentry.before_silent (.silent rfl rfl)
  rcases hstart.received_eq sink with hkept | ⟨value, hvalue, -⟩
  · rw [hkept]
    cases sink with
    | output => rfl
    | listener => rfl
  · cases hvalue

/-- A value that a sink holds after a step was there before it, or is what the step prints. -/
theorem received_step (setup : Setup) (run : Run) (sink : Sink) {position : Nat} {value : Value}
    (h : ((setup.step run).state.received sink)[position]? = some value) :
    (run.state.received sink)[position]? = some value ∨
      ∃ state call source, run = .draining state ∧ (state.received sink).size = position ∧
        state.Prints call source value ∧
        (setup.drain state).state.received sink = (state.received sink).push value := by
  cases run with
  | ended outcome => exact Or.inl h
  | draining state =>
    rw [step] at h
    rcases setup.drain_received state sink with hkept | ⟨call, source, other, hprints, hpushed⟩
    · rw [hkept] at h
      exact Or.inl h
    · rw [hpushed, Array.getElem?_push] at h
      split at h
      · next hlast =>
        obtain rfl := Option.some.inj h
        exact Or.inr ⟨state, call, source, rfl, hlast.symm, hprints, hpushed⟩
      · exact Or.inl h

/-- Every value that a sink has received was printed after fewer steps, by a call that was selected
when the sink had received just the values before it. -/
theorem exists_print (setup : Setup) (journal : Array Event) (sink : Sink) {steps position : Nat}
    {value : Value}
    (h : ((setup.advance steps (setup.start (.initial journal))).state.received sink)[position]? =
      some value) :
    ∃ earlier state call source, earlier < steps ∧
      setup.advance earlier (setup.start (.initial journal)) = .draining state ∧
      (state.received sink).size = position ∧ state.Prints call source value ∧
      (setup.drain state).state.received sink = (state.received sink).push value := by
  induction steps with
  | zero =>
    rw [advance, setup.received_start journal sink] at h
    simp at h
  | succ steps ih =>
    -- the last step printed the value, or it had been received before
    rw [advance_succ_last] at h
    rcases setup.received_step _ sink h with hold | ⟨state, call, source, hreach, hprinted⟩
    · obtain ⟨earlier, state, call, source, hlt, hprinted⟩ := ih hold
      exact ⟨earlier, state, call, source, Nat.lt_succ_of_lt hlt, hprinted⟩
    · exact ⟨steps, state, call, source, Nat.lt_succ_self steps, hreach, hprinted⟩

end Setup

end Dataflow
