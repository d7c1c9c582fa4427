import Dataflow.Proofs.Decoding
import Dataflow.Proofs.Endings
import Dataflow.Proofs.Network.Basic
import Dataflow.Proofs.Stages

/-!
# What can go wrong in a run of a program that was read

Statements are carried out without another look at their lines: the number of operands and the word
for a direction are checked when a line is read. Every statement that a run carries out was read
from a line whose words unpack to its instruction (`Statement.unpacks_of_standsOn`), so that nothing
is left to go wrong there. What is left is listed in `Cause.OfRun`, and shares no cause with reading
(`Cause.OfRun.not_ofReading`), except for a dispatch limit that has too many digits to be named in a
fault.

Main statement: `parsed_run_never_goes_wrong`.
-/

set_option autoImplicit false

namespace Dataflow

/-! ## Unpacking -/

/-- The words of its line unpack to a statement: the first is a keyword, as many follow as the
keyword takes, they are read as the operands of the instruction, and in a binding the first of them
names a direction. -/
structure Statement.Unpacks (statement : Statement) (word : String) (operands : List String)
    (keyword : Keyword) : Prop where
  words : Text.words statement.source = word :: operands
  lookup : Keyword.ofWord? word = some keyword
  arity : operands.length = keyword.arity
  instruction : Instruction.ofOperands keyword operands = .ok statement.instruction
  direction : keyword = .bind → ∃ first name direction, operands = [first, name] ∧
    Direction.ofWord? first = some direction ∧ statement.instruction = .bind ⟨name, direction⟩

/-- The line on which a statement stands unpacks to it. -/
theorem Statement.unpacks_of_standsOn {statement : Statement} {lines : List String} {number : Nat}
    (h : statement.StandsOn lines number) :
    statement.Unpacks statement.instruction.keyword.word statement.instruction.operands
      statement.instruction.keyword where
  words := h.words
  lookup := Keyword.ofWord?_eq_some_iff.2 rfl
  arity := statement.instruction.length_operands
  instruction := Instruction.ofOperands_eq_ok_iff.2 ⟨rfl, rfl⟩
  direction := by
    intro hkeyword
    cases hinstruction : statement.instruction with
    | bind b =>
      exact ⟨b.direction.word, b.name, b.direction, rfl, Direction.ofWord?_eq_some_iff.2 rfl, rfl⟩
    | declare | assign | call | copy | delete =>
      rw [hinstruction] at hkeyword
      cases hkeyword

/-! ## Causes -/

/-- The causes for which a run of a program that was read can fail, if nothing that is printed is
refused. -/
inductive Cause.OfRun : Cause → Prop where
  | alreadyDeclared (name : String) : OfRun (.alreadyDeclared name)
  | unknownVariable (name : String) : OfRun (.unknownVariable name)
  | unknownFunction {name : String} (hname : name ≠ entryName) : OfRun (.unknownFunction name)
  | invalidOperand (name : String) (value : Value) : OfRun (.invalidOperand name value)
  | intrinsicArity (name : String) (expected got : Nat) :
      OfRun (.intrinsicArity name expected got)
  | deadlocked (queued : Nat) : OfRun (.deadlocked queued)
  | dispatchLimit (limit : Int) : OfRun (.dispatchLimit limit)

theorem Cause.OfStatement.ofRun {cause : Cause} (h : cause.OfStatement) : cause.OfRun := by
  cases h with
  | alreadyDeclared name => exact .alreadyDeclared name
  | unknownVariable name => exact .unknownVariable name

/-- Runs and reading fail for different causes. -/
theorem Cause.OfRun.not_ofReading {cause : Cause} (h : cause.OfRun) : ¬ cause.OfReading := by
  intro hreading
  cases hreading with
  | unknownInstruction token => cases h
  | malformedInstruction line reason => cases h
  | alreadyInDefinition name => cases h
  | notInDefinition line => cases h
  | unterminatedDefinition name => cases h
  | duplicateFunction name => cases h

namespace Setup

variable {setup : Setup} {journal : Array Event}

/-- A listener that takes every value leaves an intrinsic function two ways to fail. -/
theorem ofIntrinsic_of_unrefused (hlistener : setup.Unrefused) {call : PendingCall}
    {failure : Failure} (h : failure.OfIntrinsic setup call) :
    (∃ expected got,
      failure = .fault (.unplaced (.intrinsicArity call.function expected got))) ∨
    ∃ name value, failure = .fault (.unplaced (.invalidOperand name value)) := by
  cases h with
  | arity expected got => exact Or.inl ⟨expected, got, rfl⟩
  | operand name value => exact Or.inr ⟨name, value, rfl⟩
  | refusal hsome hrefuses =>
    rw [hlistener _ hsome] at hrefuses
    cases hrefuses

/-- What makes a run fail is one of the listed causes, or a limit that cannot be named in a fault. -/
theorem Fails.ofRun (hentry : setup.program.defines entryName = true)
    (hlistener : setup.Unrefused) {failure : Failure} (h : setup.Fails journal failure) :
    (∃ fault, failure = .fault fault ∧ fault.cause.OfRun) ∨
      Text.withinDigitLimit setup.limit = false ∧ failure = .unwritableLimit setup.limit := by
  cases h with
  | statement henters hstops =>
    obtain ⟨fault, rfl, hcause⟩ := (executeAll_executed _ _).failure _ hstops.failure_eq
    exact Or.inl ⟨fault, rfl, hcause.ofRun⟩
  | scan hreach hselect => exact Or.inl ⟨_, rfl, .unknownVariable _⟩
  | deadlock queued => exact Or.inl ⟨_, rfl, .deadlocked queued⟩
  | limit hwritten => exact Or.inl ⟨_, rfl, .dispatchLimit setup.limit⟩
  | unwritableLimit hunwritten => exact Or.inr ⟨hunwritten, rfl⟩
  | @unknownFunction name hfind =>
    refine Or.inl ⟨_, rfl, .unknownFunction ?_⟩
    -- the entry function is defined, so it is another function that is not
    rintro rfl
    rw [Program.defines, hfind] at hentry
    cases hentry
  | intrinsic hintrinsic =>
    rcases ofIntrinsic_of_unrefused hlistener hintrinsic with
      ⟨expected, got, rfl⟩ | ⟨name, value, rfl⟩
    · exact Or.inl ⟨_, rfl, .intrinsicArity _ expected got⟩
    · exact Or.inl ⟨_, rfl, .invalidOperand name value⟩

/-- A run that ends without a failure has halted. -/
theorem halted_of_run {steps : Nat} {outcome : Outcome}
    (hrun : setup.run steps (.initial journal) = some outcome) (h : outcome.failure = none) :
    outcome.Halted := by
  have hsettled := setup.settled_advance journal steps
  rw [run_eq_some_iff.1 hrun] at hsettled
  rcases hsettled with hhalted | hdeadlocked | hfailed
  · exact hhalted
  · rw [hdeadlocked.failure] at h
    cases h
  · obtain ⟨failure, hfailure, -⟩ := hfailed.failure
    rw [hfailure] at h
    cases h

/-- A run of a program that was read carries out only statements that their lines unpack to. It goes
on forever, halts, or fails for one of the causes of `Cause.OfRun`, for none of which reading can
fail; only a limit of too many digits, once it is exceeded, is reported without a cause. A call of an intrinsic function that a scan takes from the queue fails for its number of
bindings or for an operand, and never for a variable that is not declared. -/
theorem parsed_run_never_goes_wrong (setup : Setup) (journal : Array Event) {skipBlank : Bool}
    {lines : List String} (hread : setup.program.ReadFrom skipBlank lines)
    (hentry : setup.program.defines entryName = true) (hlistener : setup.Unrefused) :
    (∀ stage body state, setup.Enters journal stage body state → ∀ statement ∈ body,
      ∃ word operands keyword, statement.Unpacks word operands keyword) ∧
    ((∀ steps, setup.run steps (.initial journal) = none) ∨
      ∃ steps outcome, setup.run steps (.initial journal) = some outcome ∧
        (outcome.Halted ∨
          (∃ fault, outcome.failure = some (.fault fault) ∧ fault.cause.OfRun ∧
            ∀ skip source other, Program.parse skip source = .error other →
              other.cause ≠ fault.cause) ∨
          Text.withinDigitLimit setup.limit = false ∧
            outcome.failure = some (.unwritableLimit setup.limit))) ∧
    (∀ steps state popped index call intrinsic failure,
      setup.advance steps (setup.start (.initial journal)) = .draining state →
      state.pop = (popped, .ok (.runnable index call)) →
      Intrinsic.ofName? call.function = some intrinsic →
      (setup.runIntrinsic intrinsic call (popped.opening call)).failure = some failure →
      (∃ expected got,
        failure = .fault (.unplaced (.intrinsicArity call.function expected got))) ∨
      ∃ name value, failure = .fault (.unplaced (.invalidOperand name value))) := by
  refine ⟨?_, ?_, ?_⟩
  · intro stage body state henters statement hstatement
    obtain ⟨f, hf, rfl⟩ := henters.exists_function
    obtain ⟨number, hstands⟩ := hread.standsOn hf hstatement
    exact ⟨_, _, _, Statement.unpacks_of_standsOn hstands⟩
  · by_cases hforever : ∀ steps, setup.run steps (.initial journal) = none
    · exact Or.inl hforever
    · obtain ⟨steps, hsome⟩ := Classical.not_forall.1 hforever
      obtain ⟨outcome, hrun⟩ := Option.ne_none_iff_exists'.1 hsome
      refine Or.inr ⟨steps, outcome, hrun, ?_⟩
      cases hfailure : outcome.failure with
      | none => exact Or.inl (halted_of_run hrun hfailure)
      | some failure =>
        rcases (fails_of_run hrun hfailure).ofRun hentry hlistener with
          ⟨fault, rfl, hcause⟩ | ⟨hunwritten, rfl⟩
        · refine Or.inr (Or.inl ⟨fault, rfl, hcause, ?_⟩)
          intro skip source other hparse hsame
          exact hcause.not_ofReading (hsame ▸ Program.parse_cause hparse)
        · exact Or.inr (Or.inr ⟨hunwritten, rfl⟩)
  · intro steps state popped index call intrinsic failure _ hpop hname hfailure
    obtain ⟨before, after, hselects, rfl⟩ := State.exists_selects_of_pop hpop
    exact ofIntrinsic_of_unrefused hlistener (runIntrinsic_failure hselects hname hfailure)

/-- The lines of a program in which a function calls the entry function again, and `add` has too few
bindings. -/
def shortOfBindings : List String :=
  ["- _entry", "var a int", "bind out a", "call add", "---", "- add", "call _entry", "---"]

/-- The call fails for its number of bindings, also if the program has a function of that name. -/
theorem parsed_run_never_goes_wrong_short_of_bindings :
    ∃ setup : Setup, setup.program.ReadFrom false shortOfBindings ∧
      setup.program.defines entryName = true ∧ setup.Unrefused ∧
      ∃ outcome fault, setup.run 1 (.initial #[]) = some outcome ∧
        outcome.failure = some (.fault fault) ∧ fault.cause = .intrinsicArity "add" 3 1 ∧
        fault.cause.OfRun := by
  obtain ⟨setup, hparse, hentry, hwilling, outcome, hrun, hfailure⟩ : ∃ setup : Setup,
      Program.parse false shortOfBindings = .ok setup.program ∧
        setup.program.defines entryName = true ∧ setup.listener = some .willing ∧
        ∃ outcome, setup.run 1 (.initial #[]) = some outcome ∧
          outcome.failure = some (.fault ⟨.intrinsicArity "add" 3 1, none⟩) :=
    ⟨⟨_, 0, some .willing⟩, rfl, rfl, rfl, _, rfl, rfl⟩
  have hlistener : setup.Unrefused := by
    intro listener hsome told value
    obtain rfl := Option.some.inj (hwilling.symm.trans hsome)
    rfl
  have hread : setup.program.ReadFrom false shortOfBindings := .lines hparse
  obtain ⟨-, hends, -⟩ := setup.parsed_run_never_goes_wrong #[] hread hentry hlistener
  rcases hends with hforever | ⟨steps, last, hlast, hend⟩
  · rw [hforever 1] at hrun
    cases hrun
  · obtain rfl := run_unique hrun hlast
    rcases hend with hhalted | ⟨fault, hfault, hcause, -⟩ | ⟨-, hlimit⟩
    · rw [hhalted.failure] at hfailure
      cases hfailure
    · obtain rfl := Failure.fault.inj (Option.some.inj (hfault.symm.trans hfailure))
      exact ⟨setup, hread, hentry, hlistener, outcome, _, hrun, hfault, rfl, hcause⟩
    · rw [hlimit] at hfailure
      cases hfailure

/-- The lines of a program that prints a variable. -/
def onePrint : List String :=
  ["- _entry", "var a int", "assg a 1", "bind in a", "call print", "---"]

/-- A negative limit that no fault can name ends the run at the print, and the failure has none of
the causes. -/
theorem parsed_run_fails_without_cause :
    ∃ setup : Setup, setup.program.ReadFrom false onePrint ∧
      setup.program.defines entryName = true ∧ setup.limit = -longLimit ∧ setup.Unrefused ∧
      ∃ outcome, setup.run 1 (.initial #[]) = some outcome ∧ ¬ outcome.Halted ∧
        ¬ ∃ fault, outcome.failure = some (.fault fault) ∧ fault.cause.OfRun := by
  obtain ⟨program, hparse, hentry, state, hstart, hqueue, hcall⟩ : ∃ program : Program,
      Program.parse false onePrint = .ok program ∧ program.defines entryName = true ∧
      ∃ state, Setup.start ⟨program, -longLimit, none⟩ (.initial #[]) = .draining state ∧
        state.queue = [⟨"print", [⟨"a", .input⟩]⟩] ∧
        PendingCall.eligible ⟨"print", [⟨"a", .input⟩]⟩ state.store = .ok true :=
    ⟨_, rfl, rfl, _, rfl, rfl, rfl⟩
  have hrun := run_neg_longLimit rfl hstart hqueue (List.forall_mem_nil _) hcall
  refine ⟨⟨program, -longLimit, none⟩, .lines hparse, hentry, rfl, nofun, _, hrun, ?_, ?_⟩
  · intro hhalted
    cases hhalted.failure
  · rintro ⟨fault, hfailure, -⟩
    cases hfailure

end Setup

end Dataflow
