import Dataflow.Proofs.Decoding
import Dataflow.Proofs.Layout

/-!
# Lines that are instructions

The words of a line settle what it is read as. An instruction has one of seven forms
(`Instruction.Spelled`). A line of another form starts with no keyword, or it has operands that its
keyword does not take (`Statement.FaultOf`); the number of operands is looked at before the direction
of a binding (`Malformation.Of`). The canonical line of an instruction has the words of the
instruction if its operands are tokens (`Instruction.words_render`), as all operands are that were
read.

Main statement: `lines_read_as_instructions`.
-/

set_option autoImplicit false

namespace Dataflow

/-! ## Forms of instructions -/

namespace Instruction

/-- The words of a line that is an instruction. -/
inductive Spelled : List String → Instruction → Prop where
  | declare (name type : String) : Spelled ["var", name, type] (.declare name type)
  | assign (name literal : String) : Spelled ["assg", name, literal] (.assign name literal)
  | bindInput (name : String) : Spelled ["bind", "in", name] (.bind ⟨name, .input⟩)
  | bindOutput (name : String) : Spelled ["bind", "out", name] (.bind ⟨name, .output⟩)
  | call (function : String) : Spelled ["call", function] (.call function)
  | copy (target source : String) : Spelled ["copy", target, source] (.copy target source)
  | delete (name : String) : Spelled ["del", name] (.delete name)

/-- Each instruction has one form. -/
theorem spelled_iff {words : List String} {instruction : Instruction} :
    Spelled words instruction ↔ words = instruction.words := by
  constructor
  · intro h
    cases h <;> rfl
  · rintro rfl
    cases instruction with
    | declare name type => exact .declare name type
    | assign name literal => exact .assign name literal
    | bind b =>
      obtain ⟨name, direction⟩ := b
      cases direction with
      | input => exact .bindInput name
      | output => exact .bindOutput name
    | call function => exact .call function
    | copy target source => exact .copy target source
    | delete name => exact .delete name

end Instruction

/-! ## Operands that a keyword does not take -/

/-- What is wrong with the operands of a keyword: there are too few or too many of them, or else the
first operand of a binding names no direction. -/
inductive Malformation.Of (keyword : Keyword) (operands : List String) : Malformation → Prop where
  | operandCount (hlength : operands.length ≠ keyword.arity) :
      Of keyword operands (.operandCount keyword operands.length)
  | direction {word name : String} (hkeyword : keyword = .bind) (hoperands : operands = [word, name])
      (hword : ∀ direction : Direction, direction.word ≠ word) : Of keyword operands (.direction word)

namespace Malformation.Of

variable {keyword : Keyword} {operands : List String} {flaw other : Malformation}

/-- Operands have at most one fault. -/
theorem unique (h : flaw.Of keyword operands) (hother : other.Of keyword operands) :
    flaw = other := by
  cases h with
  | operandCount hlength =>
    cases hother with
    | operandCount => rfl
    | direction hkeyword hoperands =>
      rw [hkeyword, hoperands] at hlength
      exact absurd rfl hlength
  | direction hkeyword hoperands hword =>
    cases hother with
    | operandCount hlength =>
      rw [hkeyword, hoperands] at hlength
      exact absurd rfl hlength
    | direction hkeyword' hoperands' =>
      rw [hoperands] at hoperands'
      rw [(List.cons.inj hoperands').1]

end Malformation.Of

namespace Instruction

variable {keyword : Keyword} {operands : List String} {flaw : Malformation}

theorem of_of_ofOperands (h : ofOperands keyword operands = .error flaw) :
    flaw.Of keyword operands := by
  rw [ofOperands.eq_def] at h
  split at h
  case h_3 word name =>
    split at h
    · cases h
    · next hnone =>
      obtain rfl := Except.error.inj h
      apply Malformation.Of.direction rfl rfl
      intro direction hdirection
      rw [Direction.ofWord?_eq_some_iff.2 hdirection] at hnone
      cases hnone
  case h_7 hdeclare hassign hbind hcall hcopy hdelete =>
    obtain rfl := Except.error.inj h
    apply Malformation.Of.operandCount
    intro hlength
    -- with the right number of operands one of the earlier cases would have applied
    cases keyword with
    | declare =>
      obtain ⟨name, type, rfl⟩ := List.length_eq_two.1 hlength
      exact hdeclare name type rfl rfl
    | assign =>
      obtain ⟨name, literal, rfl⟩ := List.length_eq_two.1 hlength
      exact hassign name literal rfl rfl
    | bind =>
      obtain ⟨word, name, rfl⟩ := List.length_eq_two.1 hlength
      exact hbind word name rfl rfl
    | call =>
      obtain ⟨function, rfl⟩ := List.length_eq_one_iff.1 hlength
      exact hcall function rfl rfl
    | copy =>
      obtain ⟨target, source, rfl⟩ := List.length_eq_two.1 hlength
      exact hcopy target source rfl rfl
    | delete =>
      obtain ⟨name, rfl⟩ := List.length_eq_one_iff.1 hlength
      exact hdelete name rfl rfl
  all_goals cases h

/-- No instruction has operands with a fault. -/
theorem not_of_operands (instruction : Instruction) :
    ¬ flaw.Of instruction.keyword instruction.operands := by
  intro h
  cases h with
  | operandCount hlength => exact hlength instruction.length_operands
  | direction hkeyword hoperands hword =>
    cases instruction with
    | bind b => exact hword b.direction (List.cons.inj hoperands).1
    | _ => cases hkeyword

theorem ofOperands_eq_error_iff :
    ofOperands keyword operands = .error flaw ↔ flaw.Of keyword operands := by
  constructor
  · exact of_of_ofOperands
  · intro h
    cases hread : ofOperands keyword operands with
    | ok instruction =>
      obtain ⟨rfl, rfl⟩ := ofOperands_eq_ok_iff.1 hread
      exact absurd h instruction.not_of_operands
    | error other => rw [h.unique (of_of_ofOperands hread)]

/-- The right number of operands makes an instruction, if the first one of a binding names a
direction. -/
theorem exists_of_operands (hlength : operands.length = keyword.arity)
    (hdirection : keyword = .bind → operands.head? = some "in" ∨ operands.head? = some "out") :
    ∃ instruction : Instruction, instruction.keyword = keyword ∧
      instruction.operands = operands := by
  cases hread : ofOperands keyword operands with
  | ok instruction => exact ⟨instruction, ofOperands_eq_ok_iff.1 hread⟩
  | error flaw =>
    exfalso
    cases of_of_ofOperands hread with
    | operandCount hother => exact hother hlength
    | direction hkeyword hoperands hword =>
      rw [hoperands, List.head?_cons, Option.some.injEq, Option.some.injEq] at hdirection
      rcases hdirection hkeyword with rfl | rfl
      · exact hword .input rfl
      · exact hword .output rfl

end Instruction

/-! ## Canonical lines -/

theorem Keyword.isToken_word (keyword : Keyword) : IsToken keyword.word := by
  cases keyword <;> decide

/-- The canonical line of an instruction has the words of the instruction. -/
theorem Instruction.words_render {instruction : Instruction}
    (h : ∀ operand ∈ instruction.operands, IsToken operand) :
    Text.words instruction.render = instruction.words := by
  apply Text.words_intercalate
  rw [List.forall_mem_cons]
  exact ⟨instruction.keyword.isToken_word, h⟩

namespace Statement

/-- An instruction is read back from its canonical line. -/
theorem decode_render {instruction : Instruction}
    (h : ∀ operand ∈ instruction.operands, IsToken operand) (line : Int) :
    decode instruction.render line = .ok ⟨instruction, instruction.render, line⟩ := by
  rw [decode_eq_ok_iff]
  exact ⟨instruction.words_render h, rfl, rfl⟩

/-! ## Faults -/

/-- The fault of a line that is no instruction: its first word is no keyword, which a line without
words has none of, or the words behind the keyword are not operands that it takes. -/
inductive FaultOf (source : String) (line : Int) : Fault → Prop where
  | unknown (hunknown : ∀ keyword : Keyword, keyword.word ≠ (Text.words source).headD "") :
      FaultOf source line (.onLine (.unknownInstruction ((Text.words source).headD "")) line)
  | malformed {keyword : Keyword} {flaw : Malformation}
      (hkeyword : keyword.word = (Text.words source).headD "")
      (hflaw : flaw.Of keyword (Text.words source).tail) :
      FaultOf source line (.onLine (.malformedInstruction source flaw.message) line)

theorem decode_eq_error_iff {source : String} {line : Int} {fault : Fault} :
    decode source line = .error fault ↔ FaultOf source line fault := by
  rw [decode]
  cases hfirst : Keyword.ofWord? ((Text.words source).headD "") with
  | none =>
    have hunknown : ∀ keyword : Keyword, keyword.word ≠ (Text.words source).headD "" := by
      intro keyword hkeyword
      rw [Keyword.ofWord?_eq_some_iff.2 hkeyword] at hfirst
      cases hfirst
    constructor
    · intro h
      obtain rfl := Except.error.inj h
      exact .unknown hunknown
    · intro h
      cases h with
      | unknown => rfl
      | malformed hkeyword => exact absurd hkeyword (hunknown _)
  | some keyword =>
    have hkeyword := Keyword.ofWord?_eq_some_iff.1 hfirst
    dsimp only
    constructor
    · intro h
      cases hread : Instruction.ofOperands keyword (Text.words source).tail with
      | ok instruction =>
        rw [hread] at h
        cases h
      | error flaw =>
        rw [hread] at h
        obtain rfl := Except.error.inj h
        exact .malformed hkeyword (Instruction.ofOperands_eq_error_iff.1 hread)
    · intro h
      cases h with
      | unknown hunknown => exact absurd hkeyword (hunknown keyword)
      | malformed hother hflaw =>
        -- a word spells one keyword only
        rw [Keyword.ofWord?_eq_some_iff.2 hother, Option.some.injEq] at hfirst
        rw [← hfirst, Instruction.ofOperands_eq_error_iff.2 hflaw]

/-- A line is read as a statement just when its words have the form of an instruction; the statement
is this instruction with the line and its number. The instruction is read again from its canonical
line, and so is every keyword with as many tokens behind it as it takes, the first of which names a
direction if it is a binding. A line that is not read has no keyword for its first word, or else it
is malformed. -/
theorem lines_read_as_instructions (source : String) (line : Int) :
    (∀ statement, decode source line = .ok statement ↔
      Instruction.Spelled (Text.words source) statement.instruction ∧ statement.source = source ∧
        statement.line = line) ∧
    (∀ statement, decode source line = .ok statement →
      statement.instruction.keyword.word :: statement.instruction.operands = Text.words source ∧
      ∀ number, decode statement.instruction.render number =
        .ok ⟨statement.instruction, statement.instruction.render, number⟩) ∧
    (∀ (keyword : Keyword) (operands : List String), operands.length = keyword.arity →
      (∀ operand ∈ operands, IsToken operand) →
      (keyword = .bind → operands.head? = some "in" ∨ operands.head? = some "out") →
      ∃ statement, decode (" ".intercalate (keyword.word :: operands)) line = .ok statement ∧
        statement.instruction.keyword = keyword ∧ statement.instruction.operands = operands) ∧
    ∀ fault, decode source line = .error fault ↔ FaultOf source line fault := by
  refine ⟨?_, ?_, ?_, ?_⟩
  · intro statement
    rw [Instruction.spelled_iff]
    exact decode_eq_ok_iff
  · intro statement h
    have hwords := (decode_eq_ok_iff.1 h).1
    exact ⟨hwords.symm, decode_render (isToken_of_decode h)⟩
  · intro keyword operands hlength htokens hdirection
    obtain ⟨instruction, rfl, rfl⟩ := Instruction.exists_of_operands hlength hdirection
    exact ⟨_, decode_render htokens line, rfl, rfl⟩
  · intro fault
    exact decode_eq_error_iff

/-- A binding with several kinds of blanks around its words. -/
def scattered : String := "\u3000bind\tin  a,b "

/-- It is read again from its canonical line, but not if its direction is misspelled. -/
theorem lines_read_as_instructions_scattered :
    decode scattered 7 = .ok ⟨.bind ⟨"a,b", .input⟩, scattered, 7⟩ ∧
      decode "bind in a,b" 0 = .ok ⟨.bind ⟨"a,b", .input⟩, "bind in a,b", 0⟩ ∧
      decode "bind on a,b" 7 =
        .error (.onLine (.malformedInstruction "bind on a,b"
          "bind direction must be 'in' or 'out', got 'on'") 7) := by
  obtain ⟨hread, hagain, -, -⟩ := lines_read_as_instructions scattered 7
  obtain ⟨-, -, -, hfault⟩ := lines_read_as_instructions "bind on a,b" 7
  have hwords : Text.words scattered = ["bind", "in", "a,b"] := by decide +kernel
  have hscattered : decode scattered 7 = .ok ⟨.bind ⟨"a,b", .input⟩, scattered, 7⟩ := by
    rw [hread, hwords]
    exact ⟨.bindInput "a,b", rfl, rfl⟩
  refine ⟨hscattered, (hagain _ hscattered).2 0, (hfault _).2 ?_⟩
  have hother : Text.words "bind on a,b" = ["bind", "on", "a,b"] := by decide +kernel
  have hflaw : (Malformation.direction "on").Of .bind (Text.words "bind on a,b").tail := by
    rw [hother]
    apply Malformation.Of.direction rfl rfl
    intro direction
    cases direction <;> decide
  exact .malformed (by rw [hother]; rfl) hflaw

end Statement

end Dataflow
