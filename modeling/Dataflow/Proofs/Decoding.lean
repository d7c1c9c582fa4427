import Dataflow.Proofs.Parsing

/-!
# Lines and what is read from them

A line is read as a statement exactly when its words are the keyword and the operands of an
instruction (`Statement.decode_eq_ok_iff`). Every statement of a program that was read therefore
stands on the line that its number says, counted over all lines, with the words of its instruction
(`Program.ReadFrom.standsOn`). `Cause.OfReading` lists the causes for which reading fails
(`Program.parse_cause`).
-/

set_option autoImplicit false

namespace Dataflow

/-! ## Words of an instruction -/

theorem Keyword.ofWord?_eq_some_iff {word : String} {keyword : Keyword} :
    ofWord? word = some keyword ↔ keyword.word = word := by
  constructor
  · intro h
    have hword := List.find?_some h
    exact of_decide_eq_true hword
  · -- the spellings differ, so the search for one of them finds its keyword
    rintro rfl
    cases keyword <;> rfl

theorem Direction.ofWord?_eq_some_iff {word : String} {direction : Direction} :
    ofWord? word = some direction ↔ direction.word = word := by
  constructor
  · intro h
    rw [ofWord?] at h
    split at h
    · next hword => rw [← Option.some.inj h, hword, Direction.word]
    · split at h
      · next hword => rw [← Option.some.inj h, hword, Direction.word]
      · cases h
  · rintro rfl
    cases direction <;> rfl

namespace Instruction

/-- The words of the line of an instruction: its keyword and its operands. -/
def words (instruction : Instruction) : List String :=
  instruction.keyword.word :: instruction.operands

/-- An instruction has as many operands as its keyword takes. -/
theorem length_operands (instruction : Instruction) :
    instruction.operands.length = instruction.keyword.arity := by
  cases instruction <;> rfl

/-- Operands can be read exactly as those of the instruction they are the operands of. -/
theorem ofOperands_eq_ok_iff {keyword : Keyword} {operands : List String}
    {instruction : Instruction} :
    ofOperands keyword operands = .ok instruction ↔
      instruction.keyword = keyword ∧ instruction.operands = operands := by
  constructor
  · intro h
    rw [ofOperands.eq_def] at h
    split at h
    case h_3 word name =>
      split at h
      · next direction hdirection =>
        obtain rfl := Except.ok.inj h
        rw [← Direction.ofWord?_eq_some_iff.1 hdirection]
        exact ⟨rfl, rfl⟩
      · cases h
    case h_7 => cases h
    all_goals
      obtain rfl := Except.ok.inj h
      exact ⟨rfl, rfl⟩
  · rintro ⟨rfl, rfl⟩
    cases instruction with
    | bind b =>
      have hdirection := Direction.ofWord?_eq_some_iff.2 (rfl : b.direction.word = b.direction.word)
      simp only [keyword, operands, ofOperands, hdirection]
    | _ => rfl

end Instruction

/-- A line is read as a statement exactly when its words are those of the instruction. -/
theorem Statement.decode_eq_ok_iff {source : String} {line : Int} {statement : Statement} :
    decode source line = .ok statement ↔
      Text.words source = statement.instruction.words ∧ statement.source = source ∧
        statement.line = line := by
  constructor
  · intro h
    rw [decode] at h
    cases hwords : Text.words source with
    | nil =>
      -- a line without words has no keyword
      simp only [hwords] at h
      cases h
    | cons first operands =>
      simp only [hwords, List.headD_cons, List.tail_cons] at h
      split at h
      · cases h
      · next keyword hkeyword =>
        split at h
        · next instruction hinstruction =>
          obtain rfl := Except.ok.inj h
          obtain ⟨hk, ho⟩ := Instruction.ofOperands_eq_ok_iff.1 hinstruction
          refine ⟨?_, rfl, rfl⟩
          rw [Instruction.words, hk, ho, Keyword.ofWord?_eq_some_iff.1 hkeyword]
        · cases h
  · rintro ⟨hwords, rfl, rfl⟩
    have hkeyword := Keyword.ofWord?_eq_some_iff.2
      (rfl : statement.instruction.keyword.word = statement.instruction.keyword.word)
    have hinstruction := Instruction.ofOperands_eq_ok_iff.2
      ⟨rfl, (rfl : statement.instruction.operands = statement.instruction.operands)⟩
    simp only [decode, hwords, Instruction.words, List.headD_cons, List.tail_cons, hkeyword,
      hinstruction]

/-! ## Line numbers -/

/-- A statement stands on the line of a given number, counted from 1 over all lines. -/
structure Statement.StandsOn (statement : Statement) (lines : List String) (number : Nat) :
    Prop where
  first : 1 ≤ number
  last : number ≤ lines.length
  source : lines[number - 1]? = some statement.source
  line : statement.line = number
  words : Text.words statement.source = statement.instruction.words

namespace Program

/-- Skipping blank lines keeps the numbers of the others. -/
theorem getElem?_of_mem_numbered {skipBlank : Bool} {lines : List String} {source : String}
    {number : Nat} (h : (source, number) ∈ numbered skipBlank lines) :
    1 ≤ number ∧ number ≤ lines.length ∧ lines[number - 1]? = some source := by
  have hmem := (List.mem_filter.1 h).1
  obtain ⟨hfirst, hsource⟩ := List.mem_zipIdx_iff_le_and_getElem?_sub.1 hmem
  obtain ⟨hlast, -⟩ := List.getElem?_eq_some_iff.1 hsource
  exact ⟨hfirst, by omega, hsource⟩

/-- A program was read from lines, which were given as such or as a text. -/
inductive ReadFrom (program : Program) (skipBlank : Bool) : List String → Prop where
  | lines {lines : List String} (h : parse skipBlank lines = .ok program) :
      ReadFrom program skipBlank lines
  | text {text : String} (h : parseText skipBlank text = .ok program) :
      ReadFrom program skipBlank (Text.lines text)

namespace ReadFrom

variable {program : Program} {skipBlank : Bool} {lines : List String}

/-- A text is read by its lines. -/
theorem parse_eq (h : program.ReadFrom skipBlank lines) :
    Program.parse skipBlank lines = .ok program := by
  cases h with
  | lines hlines => exact hlines
  | text htext => exact htext

/-- Every statement of a program that was read stands on one of its lines. -/
theorem standsOn (h : program.ReadFrom skipBlank lines) {f : Function}
    (hf : f ∈ program.functions) {statement : Statement} (hstatement : statement ∈ f.body) :
    ∃ number, statement.StandsOn lines number := by
  obtain ⟨source, number, hmem, hdecode⟩ := exists_line_of_parse h.parse_eq hf hstatement
  obtain ⟨hfirst, hlast, hsource⟩ := getElem?_of_mem_numbered hmem
  obtain ⟨hwords, rfl, hline⟩ := Statement.decode_eq_ok_iff.1 hdecode
  exact ⟨number, hfirst, hlast, hsource, hline, hwords⟩

end ReadFrom

end Program

/-! ## Faults of reading -/

/-- The causes for which reading a program can fail. -/
inductive Cause.OfReading : Cause → Prop where
  | unknownInstruction (token : String) : OfReading (.unknownInstruction token)
  | malformedInstruction (line reason : String) : OfReading (.malformedInstruction line reason)
  | alreadyInDefinition (name : String) : OfReading (.alreadyInDefinition name)
  | notInDefinition (line : String) : OfReading (.notInDefinition line)
  | unterminatedDefinition (name : String) : OfReading (.unterminatedDefinition name)
  | duplicateFunction (name : String) : OfReading (.duplicateFunction name)

/-- A line that is not read as a statement has an unknown keyword or is malformed. -/
theorem Statement.decode_fault {source : String} {line : Int} {fault : Fault}
    (h : decode source line = .error fault) :
    (∃ token, fault = .onLine (.unknownInstruction token) line) ∨
      ∃ reason, fault = .onLine (.malformedInstruction source reason) line := by
  rw [decode] at h
  split at h
  · exact Or.inl ⟨_, (Except.error.inj h).symm⟩
  · split at h
    · cases h
    · exact Or.inr ⟨_, (Except.error.inj h).symm⟩

/-- A line is turned down for one of the listed causes. -/
theorem Reader.Step.cause {reader : Reader} {line : String × Nat} {fault : Fault}
    (h : reader.Step line (.error fault)) : fault.cause.OfReading := by
  cases h with
  | nested hheader => exact .alreadyInDefinition _
  | misnamed hheader hname => exact .malformedInstruction _ _
  | outside hheader => exact .notInDefinition _
  | overfull hterminator hwords => exact .malformedInstruction _ _
  | duplicate hwords hold => exact .duplicateFunction _
  | undecodable hheader hterminator hdecode =>
    rcases Statement.decode_fault hdecode with ⟨token, rfl⟩ | ⟨reason, rfl⟩
    · exact .unknownInstruction token
    · exact .malformedInstruction _ reason

theorem Reader.feed_cause {reader later : Reader} {lines : List (String × Nat)} {fault : Fault}
    (h : reader.feed lines = (later, some fault)) : fault.cause.OfReading := by
  induction lines generalizing reader with
  | nil => cases h
  | cons first rest ih =>
    obtain ⟨source, line⟩ := first
    have hstep := reader.step source line
    rw [feed] at h
    cases hnext : reader.next source line with
    | ok middle =>
      simp only [hnext] at h
      exact ih h
    | error other =>
      simp only [hnext] at h
      obtain rfl := Option.some.inj (Prod.mk.inj h).2
      rw [hnext] at hstep
      exact hstep.cause

/-- A program that cannot be read fails for one of the listed causes. -/
theorem Program.parse_cause {skipBlank : Bool} {lines : List String} {fault : Fault}
    (h : parse skipBlank lines = .error fault) : fault.cause.OfReading := by
  rcases parse_eq_error_iff.1 h with ⟨reader, hstopped⟩ | ⟨functions, definition, -, rfl⟩
  · exact Reader.feed_cause hstopped
  · -- all lines were read, so only an open definition is left to complain about
    exact .unterminatedDefinition _

end Dataflow
