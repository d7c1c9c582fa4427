import Dataflow.Proofs.Reading

/-!
# Programs in another print

A `Reprint` sets each line of a program anew, with the same words, and gives the lines other numbers.
What is read from a reprinted text is what is read from the text itself, with the lines that it
quotes and the numbers that it names replaced by the new ones. This holds for a statement
(`Statement.decode_reprint`), for what a reader makes of a line (`Reader.Step.reprint`), for lines in
a row (`Reader.feed_reprint`) and for programs with their faults (`Program.parse_reprint`).
-/

set_option autoImplicit false

namespace Dataflow

/-! ## Reprints -/

/-- Another text for each line, with the same words, and another number. -/
structure Reprint where
  text : String → String
  number : Nat → Nat
  words_text : ∀ source, Text.words (text source) = Text.words source

namespace Reprint

/-- The new text of a numbered line and its new number. -/
def line (r : Reprint) (numbered : String × Nat) : String × Nat :=
  (r.text numbered.1, r.number numbered.2)

/-- The new number of a line. What counts no line stays as it is. -/
def place (r : Reprint) : Int → Int
  | .ofNat number => .ofNat (r.number number)
  | .negSucc number => .negSucc number

end Reprint

/-! ## What reprinting does -/

/-- The instruction stays as it is. -/
def Statement.reprint (r : Reprint) (statement : Statement) : Statement :=
  ⟨statement.instruction, r.text statement.source, r.place statement.line⟩

/-- The name stays as it is. -/
def Function.reprint (r : Reprint) (f : Function) : Function :=
  ⟨f.name, f.lines.map r.text, f.body.map (Statement.reprint r), r.number f.line⟩

/-- The functions keep their order. -/
def Program.reprint (r : Reprint) (program : Program) : Program :=
  ⟨program.functions.map (Function.reprint r)⟩

/-- Two causes quote a line; all others stay as they are. -/
def Cause.reprint (r : Reprint) : Cause → Cause
  | .malformedInstruction source reason => .malformedInstruction (r.text source) reason
  | .notInDefinition source => .notInDefinition (r.text source)
  | cause => cause

/-- A fault with the line that it quotes and the number that it names. -/
def Fault.reprint (r : Reprint) (fault : Fault) : Fault :=
  ⟨fault.cause.reprint r, fault.line.map r.place⟩

/-- What is read, reprinted, or the reprinted fault. -/
def Reprint.result (r : Reprint) {α β : Type} (change : α → β) :
    Except Fault α → Except Fault β
  | .ok a => .ok (change a)
  | .error fault => .error (fault.reprint r)

/-- The definition that is open, with its lines and statements. -/
def OpenDefinition.reprint (r : Reprint) (definition : OpenDefinition) : OpenDefinition :=
  ⟨definition.name, r.number definition.line, definition.lines.map r.text,
    definition.body.map (Statement.reprint r)⟩

/-- All that was read of a program. -/
def Reader.reprint (r : Reprint) (reader : Reader) : Reader :=
  ⟨reader.functions.map (Function.reprint r), reader.current.map (OpenDefinition.reprint r)⟩

section Reading

variable (r : Reprint)

/-! ## Single lines -/

/-- A line is read by its words alone; its text and number are only carried along. -/
theorem Statement.decode_reprint (source : String) (line : Nat) :
    decode (r.text source) (r.number line : Nat) =
      r.result (Statement.reprint r) (decode source line) := by
  rw [decode, decode]
  simp only [r.words_text]
  cases Keyword.ofWord? ((Text.words source).headD "") with
  | none => rfl
  | some keyword =>
    simp only
    cases Instruction.ofOperands keyword (Text.words source).tail with
    | ok instruction => rfl
    | error flaw => rfl

theorem OpenDefinition.append_reprint (definition : OpenDefinition) (source : String)
    (statement : Statement) :
    (definition.reprint r).append (r.text source) (statement.reprint r) =
      (definition.append source statement).reprint r := by
  simp [append, reprint]

/-- No function gets another name. -/
theorem Function.names_reprint (functions : List Function) :
    (functions.map (Function.reprint r)).map Function.name = functions.map Function.name := by
  rw [List.map_map]
  rfl

namespace Reader

/-- A reprinted line is taken or turned down as the line itself is. -/
theorem Step.reprint {reader : Reader} {line : String × Nat} {result : Except Fault Reader}
    (h : reader.Step line result) :
    (reader.reprint r).Step (r.line line) (r.result (Reader.reprint r) result) := by
  -- only words and names tell the cases apart, and these stay
  cases h with
  | header hwords =>
    exact .header ((r.words_text _).trans hwords)
  | @body functions definition source number statement hheader hterminator hdecode =>
    have hstatement := Statement.decode_reprint r source number
    rw [hdecode] at hstatement
    rw [Reprint.result, Reader.reprint, Reader.reprint, Option.map_some, Option.map_some,
      ← OpenDefinition.append_reprint]
    exact .body (by rwa [r.words_text]) (by rwa [r.words_text]) hstatement
  | terminator hwords hnew =>
    rw [Reprint.result, Reader.reprint, Reader.reprint, List.map_append]
    exact .terminator ((r.words_text _).trans hwords) (by rwa [Function.names_reprint])
  | nested hheader =>
    exact .nested (by rwa [r.words_text])
  | misnamed hheader hname =>
    exact .misnamed (by rwa [r.words_text]) (by rwa [r.words_text])
  | outside hheader =>
    exact .outside (by rwa [r.words_text])
  | overfull hterminator hwords =>
    exact .overfull (by rwa [r.words_text]) (by rwa [r.words_text])
  | duplicate hwords hold =>
    exact .duplicate ((r.words_text _).trans hwords) (by rwa [Function.names_reprint])
  | @undecodable functions definition source number fault hheader hterminator hdecode =>
    have hfault := Statement.decode_reprint r source number
    rw [hdecode] at hfault
    exact .undecodable (by rwa [r.words_text]) (by rwa [r.words_text]) hfault

theorem next_reprint (reader : Reader) (source : String) (line : Nat) :
    (reader.reprint r).next (r.text source) (r.number line) =
      r.result (Reader.reprint r) (reader.next source line) :=
  ((reader.step source line).reprint r).next_eq

/-! ## Whole texts -/

/-- Reprinted lines are taken up to the line that is turned down in the text itself. -/
theorem feed_reprint (reader : Reader) (lines : List (String × Nat)) :
    (reader.reprint r).feed (lines.map r.line) =
      ((reader.feed lines).1.reprint r, (reader.feed lines).2.map (Fault.reprint r)) := by
  induction lines generalizing reader with
  | nil => rfl
  | cons line lines ih =>
    obtain ⟨source, number⟩ := line
    rw [List.map_cons, Reprint.line, feed, feed, next_reprint]
    cases reader.next source number with
    | ok later => exact ih later
    | error fault => rfl

/-- A definition is left open in both texts or in none. -/
theorem endFault_reprint (reader : Reader) :
    (reader.reprint r).endFault = reader.endFault.map (Fault.reprint r) := by
  rw [endFault, endFault, reprint, Option.map_map, Option.map_map]
  rfl

end Reader

/-- Lines that are read as the reprinted lines of a text are the reprinted program, or have the
reprinted fault. -/
theorem Program.parse_reprint {skipBlank skipBlank' : Bool} {lines lines' : List String}
    (h : numbered skipBlank' lines' = (numbered skipBlank lines).map r.line) :
    parse skipBlank' lines' = r.result (Program.reprint r) (parse skipBlank lines) := by
  have hfeed := Reader.feed_reprint r .start (numbered skipBlank lines)
  have hstart : Reader.start.reprint r = .start := rfl
  rw [hstart] at hfeed
  rw [parse, parse, read, read, h, hfeed]
  cases Reader.start.feed (numbered skipBlank lines) with
  | mk reader stopped =>
    cases stopped with
    | some fault => rfl
    | none =>
      simp only [Option.map_none, Reader.endFault_reprint]
      cases reader.endFault with
      | some fault => rfl
      | none => rfl

end Reading

end Dataflow
