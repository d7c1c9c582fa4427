import Dataflow.Proofs.Decoding
import Dataflow.Proofs.Stages

/-!
# The lines that faults name

A statement fails for a cause that its own words account for, and the fault names the statement's
line (`Statement.execute_fault`). A statement of a program that was read stands on the line of its
number, so that a fault which a statement raises points at that statement, whichever function it
stands in and whenever that was carried out. No other fault of a run names a line, since scans,
dispatches and intrinsic functions belong to none.

Main statement: `faults_name_their_lines`.
-/

set_option autoImplicit false

namespace Dataflow

/-! ## Statements -/

/-- The words of a line account for a cause: the line can fail for it, and holds the name it speaks
of. -/
inductive Cause.ToldBy : Cause → List String → Prop where
  | declare (name type : String) : ToldBy (.alreadyDeclared name) ["var", name, type]
  | assign (name literal : String) : ToldBy (.unknownVariable name) ["assg", name, literal]
  | delete (name : String) : ToldBy (.unknownVariable name) ["del", name]
  | target (name source : String) : ToldBy (.unknownVariable name) ["copy", name, source]
  | source (target name : String) : ToldBy (.unknownVariable name) ["copy", target, name]

section Statements

variable {state : State} {failure : Failure}

/-- A write fails at a variable that is not declared. -/
theorem State.write_failure {name : String} {value : Value} {ready : Bool}
    (h : (state.write name value ready).failure = some failure) :
    failure = .fault (.unplaced (.unknownVariable name)) := by
  rw [State.write] at h
  cases hwrite : state.store.write name value ready with
  | ok store =>
    simp only [hwrite] at h
    cases h
  | error fault =>
    simp only [hwrite] at h
    obtain ⟨-, rfl⟩ := Store.write_eq_error_iff.1 hwrite
    exact (Option.some.inj h).symm

/-- An instruction fails for a cause that its words account for, and names no line itself. -/
theorem Instruction.perform_failure {instruction : Instruction}
    (h : (instruction.perform state).failure = some failure) :
    ∃ cause, failure = .fault (.unplaced cause) ∧ cause.ToldBy instruction.words := by
  cases instruction with
  | declare name type =>
    rw [perform, Store.declare] at h
    split at h
    · exact ⟨_, (Option.some.inj h).symm, .declare name type⟩
    · cases h
  | assign name literal => exact ⟨_, State.write_failure h, .assign name literal⟩
  | bind b => cases h
  | call function => cases h
  | copy target source =>
    rw [perform] at h
    cases hget : state.store.get source with
    | error fault =>
      simp only [hget] at h
      obtain ⟨-, rfl⟩ := Store.get_eq_error_iff.1 hget
      exact ⟨_, (Option.some.inj h).symm, .source target source⟩
    | ok v =>
      simp only [hget] at h
      exact ⟨_, State.write_failure h, .target target source⟩
  | delete name =>
    rw [perform, Store.delete] at h
    split at h
    · cases h
    · exact ⟨_, (Option.some.inj h).symm, .delete name⟩

/-- A statement that has a line fails with a fault on that line. -/
theorem Statement.execute_fault {statement : Statement} (hline : statement.line ≠ 0)
    (h : (statement.execute state).failure = some failure) :
    ∃ cause, failure = .fault (.onLine cause statement.line) ∧
      cause.ToldBy statement.instruction.words := by
  obtain ⟨original, horiginal, rfl⟩ := Option.map_eq_some_iff.1 h
  obtain ⟨cause, rfl, htold⟩ := Instruction.perform_failure horiginal
  refine ⟨cause, ?_, htold⟩
  rw [Failure.placed, if_neg hline]
  rfl

end Statements

/-! ## Runs -/

/-- A statement raised the failure with which a run ended: the body that the run carried out last
stops at it. -/
inductive Setup.RaisedBy (setup : Setup) (journal : Array Event) (statement : Statement)
    (outcome : Outcome) : Prop where
  | intro {stage : Nat} {body : List Statement} {state : State} {failure : Failure}
      (henters : setup.Enters journal stage body state)
      (hstops : StopsAt body state statement failure)
      (hend : setup.advance stage (setup.start (.initial journal)) = .ended outcome)

/-- The causes for which a run fails other than at a statement. -/
inductive Cause.OfMachine : Cause → Prop where
  | unknownVariable (name : String) : OfMachine (.unknownVariable name)
  | unknownFunction (name : String) : OfMachine (.unknownFunction name)
  | invalidOperand (name : String) (value : Value) : OfMachine (.invalidOperand name value)
  | intrinsicArity (name : String) (expected got : Nat) :
      OfMachine (.intrinsicArity name expected got)
  | deadlocked (queued : Nat) : OfMachine (.deadlocked queued)
  | dispatchLimit (limit : Int) : OfMachine (.dispatchLimit limit)

namespace Setup

variable {setup : Setup} {journal : Array Event} {outcome : Outcome}

/-- A run that a statement made fail ended with the fault of that statement. -/
theorem RaisedBy.exists_execute {statement : Statement} {failure : Failure}
    (h : setup.RaisedBy journal statement outcome) (hfailure : outcome.failure = some failure) :
    (∃ f ∈ setup.program.functions, statement ∈ f.body) ∧
      ∃ state, (statement.execute state).failure = some failure := by
  obtain ⟨henters, hstops, hend⟩ := h
  obtain ⟨last, hlast, hlastFailure⟩ := henters.ended hstops
  obtain rfl := Run.ended.inj (hend.symm.trans hlast)
  obtain rfl := Option.some.inj (hfailure.symm.trans hlastFailure)
  obtain ⟨f, hf, rfl⟩ := henters.exists_function
  refine ⟨⟨f, hf, hstops.mem⟩, ?_⟩
  obtain ⟨-, -, hfails⟩ := hstops
  exact ⟨_, hfails⟩

/-- A run fails at a statement, or with a fault that names no line. -/
theorem raisedBy_or_unplaced {steps : Nat} {fault : Fault}
    (hrun : setup.run steps (.initial journal) = some outcome)
    (hfailure : outcome.failure = some (.fault fault)) :
    (∃ statement, setup.RaisedBy journal statement outcome) ∨
      fault.line = none ∧ fault.cause.OfMachine ∧
        ∀ name, fault.cause = .unknownVariable name → ∃ earlier state,
          setup.advance earlier (setup.start (.initial journal)) = .draining state ∧
          state.queue.select state.store = .error fault := by
  have hfails := fails_of_run hrun hfailure
  generalize hfault : Failure.fault fault = failure at hfails
  cases hfails with
  | @statement stage body state statement failure henters hstops =>
    -- the body stops the run in its stage, and a run has one outcome
    obtain ⟨last, hlast, -⟩ := henters.ended hstops
    obtain rfl := advance_unique (run_eq_some_iff.1 hrun) hlast
    exact Or.inl ⟨statement, henters, hstops, hlast⟩
  | @scan earlier state name hreach hselect =>
    obtain rfl := Failure.fault.inj hfault
    exact Or.inr ⟨rfl, .unknownVariable name, fun _ _ => ⟨earlier, state, hreach, hselect⟩⟩
  | deadlock queued =>
    obtain rfl := Failure.fault.inj hfault
    exact Or.inr ⟨rfl, .deadlocked queued, nofun⟩
  | limit =>
    obtain rfl := Failure.fault.inj hfault
    exact Or.inr ⟨rfl, .dispatchLimit setup.limit, nofun⟩
  | unwritableLimit => cases hfault
  | unknownFunction hfind =>
    obtain rfl := Failure.fault.inj hfault
    exact Or.inr ⟨rfl, .unknownFunction _, nofun⟩
  | intrinsic h =>
    cases h with
    | arity expected got =>
      obtain rfl := Failure.fault.inj hfault
      exact Or.inr ⟨rfl, .intrinsicArity _ expected got, nofun⟩
    | operand name value =>
      obtain rfl := Failure.fault.inj hfault
      exact Or.inr ⟨rfl, .invalidOperand name value, nofun⟩
    | refusal hlistener hrefuses => cases hfault

/-- A fault that a statement raised names the line on which the statement stands, counted over all
lines of the source, and the words of that line account for the cause. A fault of a run that no
statement raised names no line; if it is about a variable, a scan missed it. -/
theorem faults_name_their_lines (setup : Setup) (journal : Array Event) {skipBlank : Bool}
    {lines : List String} (hread : setup.program.ReadFrom skipBlank lines) {steps : Nat}
    {outcome : Outcome} {fault : Fault}
    (hrun : setup.run steps (.initial journal) = some outcome)
    (hfailure : outcome.failure = some (.fault fault)) :
    (∀ statement, setup.RaisedBy journal statement outcome →
      ∃ (number : Nat) (source : String), fault.line = some (number : Int) ∧ 1 ≤ number ∧
        number ≤ lines.length ∧ lines[number - 1]? = some source ∧
        Statement.decode source number = .ok statement ∧
        fault.cause.ToldBy (Text.words source)) ∧
    ((∀ statement, ¬ setup.RaisedBy journal statement outcome) →
      fault.line = none ∧ fault.cause.OfMachine ∧
        ∀ name, fault.cause = .unknownVariable name → ∃ earlier state,
          setup.advance earlier (setup.start (.initial journal)) = .draining state ∧
          state.queue.select state.store = .error fault) := by
  constructor
  · intro statement hraised
    obtain ⟨⟨f, hf, hstatement⟩, state, hfails⟩ := hraised.exists_execute hfailure
    obtain ⟨number, hstands⟩ := hread.standsOn hf hstatement
    -- lines are counted from 1, so the statement has a line to name
    have hline : statement.line ≠ 0 := by
      have hfirst := hstands.first
      have hnumber := hstands.line
      omega
    obtain ⟨cause, hfault, htold⟩ := Statement.execute_fault hline hfails
    obtain rfl := Failure.fault.inj hfault
    refine ⟨number, statement.source, ?_, hstands.first, hstands.last, hstands.source, ?_, ?_⟩
    · rw [← hstands.line]
      rfl
    · exact Statement.decode_eq_ok_iff.2 ⟨hstands.words, rfl, hstands.line⟩
    · rw [hstands.words]
      exact htold
  · intro hnone
    rcases raisedBy_or_unplaced hrun hfailure with ⟨statement, hraised⟩ | hunplaced
    · exact absurd hraised (hnone statement)
    · exact hunplaced

/-- A text with blank lines in it, in which a function that is carried out late declares a variable
twice. -/
def declaredTwice : String :=
  "\n- _entry\nvar a int\n\ncall late\n---\n \n- late\n\n  var\ta  text\n---\n"

/-- The program of the text. -/
def lateDeclaration : Program :=
  ⟨[⟨entryName, ["var a int", "call late"],
      [⟨.declare "a" "int", "var a int", 3⟩, ⟨.call "late", "call late", 5⟩], 2⟩,
    ⟨"late", ["  var\ta  text"], [⟨.declare "a" "text", "  var\ta  text", 10⟩], 8⟩]⟩

theorem parseText_declaredTwice :
    Program.parseText true declaredTwice = .ok lateDeclaration := by
  have hparsed : (Program.parseText true declaredTwice).toOption = some lateDeclaration := by
    decide +kernel
  cases h : Program.parseText true declaredTwice with
  | error fault =>
    rw [h] at hparsed
    cases hparsed
  | ok program =>
    rw [h] at hparsed
    exact congrArg Except.ok (Option.some.inj hparsed)

/-- The fault names line 10 of the text, on which the second declaration stands. -/
theorem faults_name_their_lines_declared_twice :
    ∃ setup : Setup, setup.program.ReadFrom true (Text.lines declaredTwice) ∧
      ∃ outcome, setup.run 1 (.initial #[]) = some outcome ∧
        outcome.failure = some (.fault ⟨.alreadyDeclared "a", some 10⟩) ∧
        (Text.lines declaredTwice)[9]? = some "  var\ta  text" ∧
        ∃ statement, setup.RaisedBy #[] statement outcome ∧
          Statement.decode "  var\ta  text" 10 = .ok statement := by
  obtain ⟨setup, hparse, outcome, hrun, hfailure⟩ : ∃ setup : Setup,
      Program.parseText true declaredTwice = .ok setup.program ∧
        ∃ outcome, setup.run 1 (.initial #[]) = some outcome ∧
          outcome.failure = some (.fault ⟨.alreadyDeclared "a", some 10⟩) :=
    ⟨⟨lateDeclaration, 0, none⟩, parseText_declaredTwice, _, rfl, rfl⟩
  have hread : setup.program.ReadFrom true (Text.lines declaredTwice) := .text hparse
  have hsource : (Text.lines declaredTwice)[9]? = some "  var\ta  text" := by decide +kernel
  obtain ⟨hraised, hunplaced⟩ := setup.faults_name_their_lines #[] hread hrun hfailure
  -- a fault that names a line was raised by a statement
  obtain ⟨statement, hstatement⟩ : ∃ statement, setup.RaisedBy #[] statement outcome := by
    apply Classical.byContradiction
    intro hnone
    obtain ⟨hline, -⟩ := hunplaced (not_exists.1 hnone)
    cases hline
  obtain ⟨number, source, hnumber, -, -, hline, hdecode, -⟩ := hraised statement hstatement
  obtain rfl : number = 10 := by
    have hcast := Option.some.inj hnumber
    omega
  obtain rfl := Option.some.inj (hline.symm.trans hsource)
  exact ⟨setup, hread, outcome, hrun, hfailure, hsource, statement, hstatement, hdecode⟩

end Setup

end Dataflow
