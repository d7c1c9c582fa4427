import Dataflow.Proofs.Lines
import Dataflow.Proofs.Numerals
import Dataflow.Proofs.WellFormed
import Dataflow.Session

/-!
# Printed values

A listener that prints refuses an integer of more digits than `Text.digitLimit` and takes all other
values. A run that it listens to stops at the first value that it refuses: all values told before the
last one were printed, and the last one was refused exactly if the run stopped with the refusal
(`Printed`, `Setup.printed_advance`). The dispatch limit is one that a fault can name throughout.
Values that runs of parsed programs print are integers, tokens or missing, so that each is printed
as one line (`Value.WellFormed.unbroken_plain`).
-/

set_option autoImplicit false

namespace Dataflow

/-! ## Texts of values -/

/-- An integer of more digits than can be printed. -/
def Value.Oversized : Value → Prop
  | .int n => Text.digitLimit < (Nat.toDigits 10 n.natAbs).length
  | _ => False

theorem Value.printable_eq_false_iff {value : Value} :
    value.printable = false ↔ value.Oversized := by
  cases value with
  | int n =>
    have hlimit : 0 < Text.digitLimit := by decide
    have hdigits := Nat.length_toDigits_le_iff (n := n.natAbs) (b := 10) (by decide) hlimit
    rw [Oversized, ← Nat.not_le, hdigits, printable, Text.withinDigitLimit, Nat.pow_eq,
      decide_eq_false_iff_not]
  | absent | text _ | bool _ => simp [printable, Oversized]

theorem Value.printable_eq_true_iff {value : Value} :
    value.printable = true ↔ ¬ value.Oversized := by
  rw [← printable_eq_false_iff, Bool.not_eq_false]

/-- A numeral is made of digits and a sign. -/
theorem Text.unbroken_writeInt (n : Int) : Unbroken (writeInt n) := by
  have hrepr : ∀ k : Nat, Unbroken (Nat.repr k) := by
    intro k
    apply Unbroken.of_not_blank
    intro c hc
    rw [Nat.toList_repr] at hc
    exact not_isBlank_of_isDigit (Nat.isDigit_of_mem_toDigits (by decide) (by decide) hc)
  cases n with
  | ofNat k => exact hrepr k
  | negSucc k =>
    have hsign : Unbroken "-" := by decide
    exact hsign.append (hrepr (k + 1))

/-- Values that parsed programs store are printed as one line. -/
theorem Value.WellFormed.unbroken_plain {value : Value} (h : value.WellFormed) :
    Text.Unbroken value.plain := by
  cases value with
  | absent => exact (by decide : Text.Unbroken "None")
  | int n => exact Text.unbroken_writeInt n
  | text content => exact .of_not_blank h.2
  | bool b => exact h.elim

/-! ## What a printing listener is told -/

/-- How telling values ended: all were printed, and there is no failure but a fault; or the last one
was refused, and this is the failure. -/
inductive Printed (told : Array Value) : Option Failure → Prop where
  | all (htold : ∀ value ∈ told, ¬ value.Oversized) : Printed told none
  | faulty (htold : ∀ value ∈ told, ¬ value.Oversized) (fault : Fault) :
      Printed told (some (.fault fault))
  | refused {before : Array Value} {last : Value} (htold : told = before.push last)
      (hbefore : ∀ value ∈ before, ¬ value.Oversized) (hlast : last.Oversized) :
      Printed told (some (.refusal .digitLimit))

namespace Printed

variable {told : Array Value}

/-- Nothing but faults can fail where no value is refused. -/
theorem of_faults (htold : ∀ value ∈ told, ¬ value.Oversized) {failure : Option Failure}
    (hfailure : ∀ f, failure = some f → ∃ fault, f = .fault fault) : Printed told failure := by
  cases failure with
  | none => exact .all htold
  | some failure =>
    obtain ⟨fault, rfl⟩ := hfailure failure rfl
    exact .faulty htold fault

end Printed

/-- A run that goes on has printed all values told; for one that ended the failure tells. -/
def Run.Printed : Run → Prop
  | .draining state => Dataflow.Printed state.told none
  | .ended outcome => Dataflow.Printed outcome.state.told outcome.failure

section Operations

variable {state : State} (htold : ∀ value ∈ state.told, ¬ value.Oversized)
include htold

/-- Statements tell nothing and fail with faults. -/
theorem Outcome.Executed.printed {outcome : Outcome} (h : outcome.Executed state) :
    Printed outcome.state.told outcome.failure := by
  rw [h.told]
  apply Printed.of_faults htold
  intro failure hfailure
  obtain ⟨fault, hfault, -⟩ := h.failure failure hfailure
  exact ⟨fault, hfault⟩

theorem State.printed_emit (value : Value) :
    Printed (state.emit (some .printing) value).state.told
      (state.emit (some .printing) value).failure := by
  simp only [State.emit, Listener.printing]
  by_cases hvalue : value.Oversized
  · rw [Value.printable_eq_false_iff.2 hvalue]
    exact .refused rfl htold hvalue
  · rw [Value.printable_eq_true_iff.2 hvalue]
    refine .all ?_
    intro other hother
    rcases Array.mem_push.1 hother with hold | rfl
    · exact htold other hold
    · exact hvalue

theorem State.printed_runAdd (call : PendingCall) :
    Printed (state.runAdd call).state.told (state.runAdd call).failure := by
  rw [State.runAdd]
  split
  · next left right target rest hbindings =>
    split
    · next n hsum => exact (state.write_executed target.name (.int n) true).printed htold
    · next fault hsum => exact .faulty htold fault
  · exact .faulty htold _

theorem State.printed_runPrint (call : PendingCall) :
    Printed (state.runPrint (some .printing) call).state.told
      (state.runPrint (some .printing) call).failure := by
  rw [State.runPrint]
  split
  · next source rest hbindings =>
    cases state.store.read source.name with
    | ok value => exact state.printed_emit htold value
    | error fault => exact .faulty htold fault
  · exact .faulty htold _

theorem Setup.printed_runFunction (setup : Setup) (name : String) :
    Printed (setup.runFunction name state).state.told (setup.runFunction name state).failure := by
  rw [Setup.runFunction, Program.function]
  cases setup.program.find? name with
  | none => exact .faulty htold _
  | some f =>
    have hnote : ∀ value ∈ (state.note (.entered name)).told, ¬ value.Oversized := htold
    exact (executeAll_executed f.body (state.note (.entered name))).printed hnote

theorem Setup.printed_dispatch {setup : Setup} (hlistener : setup.listener = some .printing)
    (hwritten : Text.withinDigitLimit setup.limit = true) (call : PendingCall) :
    Printed (setup.dispatch call state).state.told (setup.dispatch call state).failure := by
  cases hlimit : setup.exhausted state with
  | true =>
    rw [dispatch_of_exhausted call hlimit, Failure.overLimit_of_within hwritten]
    exact .faulty htold _
  | false =>
    rw [dispatch_of_not_exhausted call hlimit]
    cases Intrinsic.ofName? call.function with
    | none =>
      have hopening : ∀ value ∈ (state.opening call).told, ¬ value.Oversized := htold
      exact setup.printed_runFunction hopening call.function
    | some intrinsic =>
      have hnote : ∀ value ∈ ((state.opening call).note (.intrinsic call)).told,
          ¬ value.Oversized := htold
      cases intrinsic with
      | add => exact State.printed_runAdd hnote call
      | print =>
        simp only [runIntrinsic, hlistener]
        exact State.printed_runPrint hnote call

/-- One step of draining. -/
theorem Setup.printed_drain {setup : Setup} (hlistener : setup.listener = some .printing)
    (hwritten : Text.withinDigitLimit setup.limit = true) : (setup.drain state).Printed := by
  have hskipped : ∀ skipped phase, ∀ value ∈ ((state.noteSkipped skipped).move phase).told,
      ¬ value.Oversized := by
    intro skipped phase
    rw [State.noteSkipped_eq]
    exact htold
  have hstep := setup.drained state
  generalize setup.drain state = next at hstep ⊢
  cases hstep with
  | halted hqueue => exact .all htold
  | stuck hqueue hnone => exact .faulty (hskipped _ _) _
  | faulty hqueue hbefore hcall => exact .faulty (hskipped _ _) _
  | @dispatched before after call hqueue hbefore hcall =>
    have htaking : ∀ value ∈ (state.taking before after).told, ¬ value.Oversized := by
      rw [State.taking_eq]
      exact htold
    have hdispatch := printed_dispatch htaking hlistener hwritten call
    cases houtcome : setup.dispatch call (state.taking before after) with
    | mk later failure =>
      rw [houtcome] at hdispatch
      -- only the phase changes when a dispatch fails
      cases failure with
      | none => exact hdispatch
      | some failure => exact hdispatch

end Operations

namespace Setup

variable {setup : Setup}

theorem printed_start (setup : Setup) (journal : Array Event) :
    (setup.start (.initial journal)).Printed := by
  have hmoved : ∀ value ∈ ((State.initial journal).move .running).told, ¬ value.Oversized := by
    intro value hvalue
    cases hvalue with | mk h => cases h
  have hentry := setup.printed_runFunction hmoved entryName
  rw [setup.start_eq_afterEntry journal]
  cases houtcome : setup.runFunction entryName ((State.initial journal).move .running) with
  | mk later failure =>
    rw [houtcome] at hentry
    cases failure with
    | none => exact hentry
    | some failure => exact hentry

/-- A run that a printing listener listens to. -/
theorem printed_advance (hlistener : setup.listener = some .printing)
    (hwritten : Text.withinDigitLimit setup.limit = true) (journal : Array Event) (steps : Nat) :
    (setup.advance steps (setup.start (.initial journal))).Printed := by
  refine advance_keep (P := Run.Printed) ?_ steps (setup.printed_start journal)
  intro run h
  cases run with
  | ended outcome => exact h
  | draining state =>
    cases h with
    | all htold => exact printed_drain htold hlistener hwritten

/-- Every value told in a run of a parsed program is the value of a variable. -/
theorem wellFormed_told (hprogram : setup.program.WellFormed) (journal : Array Event) (steps : Nat)
    {value : Value}
    (h : value ∈ (setup.advance steps (setup.start (.initial journal))).state.told) :
    value.WellFormed := by
  obtain ⟨position, hposition⟩ := Array.mem_iff_getElem?.1 h
  obtain ⟨earlier, state, call, source, -, hreach, -, hprints, -⟩ :=
    setup.exists_print journal .listener hposition
  have hstate := wellFormed_advance hprogram journal earlier
  rw [hreach] at hstate
  obtain ⟨v, hfind, rfl⟩ := Store.read_eq_ok_iff.1 hprints.value
  exact (hstate.store.find? hfind).value

end Setup

/-! ## Sessions -/

/-- The failure in place of a report. -/
def Failure.ofResult? : Except Failure Report → Option Failure
  | .ok _ => none
  | .error failure => some failure

/-- What is known of the values that were told in a session. -/
structure Conclusion.Told (conclusion : Conclusion) : Prop where
  printed : Printed conclusion.told (Failure.ofResult? conclusion.result)
  wellFormed : ∀ value ∈ conclusion.told, value.WellFormed

theorem Conclusion.told_early (journal : Array Event) (fault : Fault) :
    (early journal fault).Told := by
  have hnone : ∀ value : Value, value ∉ (early journal fault).told := fun value => by
    simp [early]
  exact ⟨.faulty (fun value hvalue => absurd hvalue (hnone value)) fault,
    fun value hvalue => absurd hvalue (hnone value)⟩

/-- A session ends before its machine runs, or its machine is a new one with the program that was
read. -/
theorem Session.ofText_cases (settings : Settings) (listener : Option Listener) (text : String) :
    (∃ journal fault, ofText settings listener text = .error (.early journal fault)) ∨
      ∃ program journal, Program.parseText settings.skipBlankLines text = .ok program ∧
        ofText settings listener text =
          .ok ⟨⟨program, settings.maxDispatches, listener⟩, .initial journal⟩ := by
  simp only [ofText, Program.parseText, Program.parse]
  cases Program.read settings.skipBlankLines (Text.lines text) with
  | mk functions fault =>
    cases fault with
    | some fault => exact Or.inl ⟨_, fault, rfl⟩
    | none =>
      simp only
      cases Program.entry ⟨functions⟩ with
      | error fault => exact Or.inl ⟨_, fault, rfl⟩
      | ok entry => exact Or.inr ⟨⟨functions⟩, _, rfl, rfl⟩

/-- A conclusion tells what the run told, and fails as it does. -/
theorem Conclusion.told_ofOutcome {setup : Setup} (hlistener : setup.listener = some .printing)
    (hwritten : Text.withinDigitLimit setup.limit = true)
    (hprogram : setup.program.WellFormed) {journal : Array Event} {steps : Nat} {outcome : Outcome}
    (hrun : setup.run steps (.initial journal) = some outcome) : (ofOutcome outcome).Told := by
  have hended := Setup.run_eq_some_iff.1 hrun
  have hprinted := Setup.printed_advance hlistener hwritten journal steps
  have hvalues := @Setup.wellFormed_told setup hprogram journal steps
  rw [hended] at hprinted hvalues
  obtain ⟨state, failure⟩ := outcome
  cases failure with
  | none => exact ⟨hprinted, fun _ hvalue => hvalues hvalue⟩
  | some failure => exact ⟨hprinted, fun _ hvalue => hvalues hvalue⟩

theorem Session.told_conclude {steps : Nat} {settings : Settings}
    (hwritten : Text.withinDigitLimit settings.maxDispatches = true) {text : String}
    {conclusion : Conclusion}
    (h : conclude steps (ofText settings (some .printing) text) = some conclusion) :
    conclusion.Told := by
  rcases ofText_cases settings (some .printing) text with
    ⟨journal, fault, hearly⟩ | ⟨program, journal, hparse, hsession⟩
  · rw [hearly] at h
    obtain rfl := Option.some.inj h
    exact Conclusion.told_early journal fault
  · rw [hsession, conclude, Option.map_eq_some_iff] at h
    obtain ⟨outcome, hrun, rfl⟩ := h
    have hprogram : program.WellFormed := Program.wellFormed_of_parse hparse
    refine Conclusion.told_ofOutcome ?_ ?_ hprogram hrun
    · rfl
    · exact hwritten

/-- A file that is run under given settings, whose bound can be written. -/
theorem told_runFile {steps : Nat} {environment : Environment} {settings : Settings}
    (hwritten : Text.withinDigitLimit settings.maxDispatches = true) {path : String} {bytes : List UInt8} {conclusion : Conclusion}
    (h : runFile steps environment (some settings) (some .printing) path bytes = some conclusion) :
    conclusion.Told := by
  rw [runFile, Session.ofFile] at h
  cases hdecode : Text.Utf8.decode bytes with
  | error flaw =>
    simp only [hdecode] at h
    obtain rfl := Option.some.inj h
    exact Conclusion.told_early _ _
  | ok text =>
    simp only [hdecode, Session.ofSource] at h
    exact Session.told_conclude hwritten h

end Dataflow
