import Dataflow.Proofs.Reading

/-!
# What parsing yields

Reading keeps nothing that was not decoded: every statement of a program that was read comes from
one of its lines (`Program.exists_line_of_parse`). Operands are words of their line, so that the
names, types and literals in a program are non-empty and hold no blank
(`Program.operand_isToken_of_parse`).
-/

set_option autoImplicit false

namespace Dataflow

/-! ## Tokens -/

/-- A non-empty text without blanks. -/
def IsToken (text : String) : Prop := Text.IsWord text.toList

instance (text : String) : Decidable (IsToken text) :=
  decidable_of_iff ((!text.toList.isEmpty && text.toList.all fun c => !Text.isBlank c) = true)
    (by simp [IsToken, Text.IsWord])

theorem isToken_of_mem_words {text word : String} (h : word ∈ Text.words text) : IsToken word :=
  Text.isWord_of_mem_words h

/-- The word for a direction is a token. -/
theorem Direction.isToken_word (direction : Direction) : IsToken direction.word := by
  cases direction with
  | input => decide
  | output => decide

/-- The operands of an instruction are words it was read from, or the word for a direction. -/
theorem Instruction.isToken_of_ofOperands {keyword : Keyword} {operands : List String}
    {instruction : Instruction} (h : ofOperands keyword operands = .ok instruction)
    (hoperands : ∀ operand ∈ operands, IsToken operand) :
    ∀ operand ∈ instruction.operands, IsToken operand := by
  rw [ofOperands.eq_def] at h
  split at h
  · next name type =>
    obtain rfl := Except.ok.inj h
    exact hoperands
  · next name literal =>
    obtain rfl := Except.ok.inj h
    exact hoperands
  · next word name =>
    split at h
    · next direction hdirection =>
      -- a direction is kept as such, and its operand is the word for it
      obtain rfl := Except.ok.inj h
      intro operand hoperand
      rcases List.mem_cons.1 hoperand with rfl | hname
      · exact direction.isToken_word
      · exact hoperands operand (List.mem_cons_of_mem _ hname)
    · cases h
  · next function =>
    obtain rfl := Except.ok.inj h
    exact hoperands
  · next target source =>
    obtain rfl := Except.ok.inj h
    exact hoperands
  · next name =>
    obtain rfl := Except.ok.inj h
    exact hoperands
  · cases h

theorem Statement.isToken_of_decode {source : String} {line : Int} {statement : Statement}
    (h : decode source line = .ok statement) :
    ∀ operand ∈ statement.instruction.operands, IsToken operand := by
  rw [decode] at h
  split at h
  · cases h
  · next keyword hkeyword =>
    split at h
    · next instruction hinstruction =>
      obtain rfl := Except.ok.inj h
      apply Instruction.isToken_of_ofOperands hinstruction
      intro operand hoperand
      exact isToken_of_mem_words (List.mem_of_mem_tail hoperand)
    · cases h

/-! ## Reading -/

/-- The statement was decoded from one of the numbered lines. -/
def Statement.FromLines (statement : Statement) (lines : List (String × Nat)) : Prop :=
  ∃ source line, (source, line) ∈ lines ∧ decode source line = .ok statement

/-- All statements that a reader holds were decoded from the numbered lines. -/
structure Reader.FromLines (reader : Reader) (lines : List (String × Nat)) : Prop where
  functions : ∀ f ∈ reader.functions, ∀ statement ∈ f.body, statement.FromLines lines
  current : ∀ definition, reader.current = some definition →
    ∀ statement ∈ definition.body, statement.FromLines lines

namespace Reader

variable {reader reader' : Reader} {lines : List (String × Nat)} {source : String} {line : Nat}

/-- Reading one of the lines. -/
theorem FromLines.next (h : reader.FromLines lines) (hline : (source, line) ∈ lines)
    (hnext : reader.next source line = .ok reader') : reader'.FromLines lines := by
  have hstep := reader.step source line
  rw [hnext] at hstep
  cases hstep with
  | header hwords =>
    refine ⟨h.functions, ?_⟩
    intro definition hdefinition statement hstatement
    obtain rfl := Option.some.inj hdefinition
    exact absurd hstatement List.not_mem_nil
  | @body functions definition _ _ statement hheader hterminator hdecode =>
    refine ⟨h.functions, ?_⟩
    intro extended hextended other hother
    obtain rfl := Option.some.inj hextended
    rcases List.mem_append.1 hother with hold | hnew
    · exact h.current definition rfl other hold
    · obtain rfl := List.mem_singleton.1 hnew
      exact ⟨source, line, hline, hdecode⟩
  | @terminator functions definition _ _ hwords hname =>
    refine ⟨?_, nofun⟩
    -- the function that is added has the statements of the open definition
    intro f hf
    rcases List.mem_append.1 hf with hold | hnew
    · exact h.functions f hold
    · obtain rfl := List.mem_singleton.1 hnew
      exact h.current definition rfl

/-- Reading some of the lines, up to the first fault. -/
theorem FromLines.feed {rest : List (String × Nat)} (h : reader.FromLines lines)
    (hrest : rest ⊆ lines) : (reader.feed rest).1.FromLines lines := by
  induction rest generalizing reader with
  | nil => exact h
  | cons first rest ih =>
    obtain ⟨source, line⟩ := first
    obtain ⟨hline, hrest⟩ := List.cons_subset.1 hrest
    rw [Reader.feed]
    cases hnext : reader.next source line with
    | ok later => exact ih (h.next hline hnext) hrest
    | error fault => exact h

end Reader

namespace Program

variable {skipBlank : Bool} {lines : List String} {program : Program}

/-- Every statement of a program comes from one of its lines. -/
theorem exists_line_of_parse (hparse : parse skipBlank lines = .ok program) {f : Function}
    (hf : f ∈ program.functions) {statement : Statement} (hstatement : statement ∈ f.body) :
    statement.FromLines (numbered skipBlank lines) := by
  have hstart : Reader.start.FromLines (numbered skipBlank lines) :=
    ⟨fun f hf => absurd hf List.not_mem_nil, nofun⟩
  have hread := hstart.feed (List.Subset.refl _)
  rw [parse_eq_ok_iff.1 hparse] at hread
  exact hread.functions f hf statement hstatement

/-- The operands in a program are tokens. -/
theorem operand_isToken_of_parse (hparse : parse skipBlank lines = .ok program) {f : Function}
    (hf : f ∈ program.functions) {statement : Statement} (hstatement : statement ∈ f.body) :
    ∀ operand ∈ statement.instruction.operands, IsToken operand := by
  obtain ⟨source, line, -, hdecode⟩ := exists_line_of_parse hparse hf hstatement
  exact Statement.isToken_of_decode hdecode

end Program

end Dataflow
