import Dataflow.Proofs.BareRuns
import Dataflow.Proofs.BlankLines
import Dataflow.Proofs.Layout
import Dataflow.Proofs.Lines

/-!
# Programs written as text

A program is written as the definitions of its functions in order, each a header, the lines of its
body and a terminator. No line that was read holds a line break and no name holds a blank, so the
text has just these lines again, none of them blank (`Program.lines_write`). They have a print in
common with the lines that the program was read from, and lines with a print in common are read alike
(`Program.parse_of_same_print`): what is read from the text is the program but for numbers if the
body lines are those of the source, and but for numbers and lines if they are the canonical ones.

Main statement: `parse_write_parse`.
-/

set_option autoImplicit false

namespace Dataflow

/-! ## Writing -/

/-- The lines that define a function, with the given ones as its body. -/
def Function.definition (f : Function) (body : List String) : List String :=
  (headerMark ++ " " ++ f.name) :: body ++ [terminatorMark]

/-- The canonical lines of the statements of a function. -/
def Function.canonicalLines (f : Function) : List String :=
  f.body.map fun statement => statement.instruction.render

/-- The lines that define the functions of a program, with the given bodies. -/
def Program.definitions (program : Program) (body : Function → List String) : List String :=
  program.functions.flatMap fun f => f.definition (body f)

/-- The text of a program: its lines with line feeds between them. -/
def Program.write (program : Program) (body : Function → List String) : String :=
  "\n".intercalate (program.definitions body)

/-! ## Numbers -/

/-- The instruction and the line it was read from. -/
def Statement.unnumbered (statement : Statement) : Statement := { statement with line := 0 }

/-- The name, the lines and the statements. -/
def Function.unnumbered (f : Function) : Function :=
  { f with body := f.body.map Statement.unnumbered, line := 0 }

/-- The program without the numbers of its lines. -/
def Program.unnumbered (program : Program) : Program :=
  ⟨program.functions.map Function.unnumbered⟩

/-- Numbers make no difference to the bare program. -/
theorem Program.bare_unnumbered (program : Program) : program.unnumbered.bare = program.bare := by
  have hfunction : ∀ f : Function, f.unnumbered.bare = f.bare := by
    intro f
    simp [Function.unnumbered, Function.bare, Function.comp_def, Statement.unnumbered,
      Statement.bare]
  simp [bare, unnumbered, hfunction]

/-- A print has the bare statements of the program. -/
theorem Program.bare_reprint (r : Reprint) (program : Program) :
    (program.reprint r).bare = program.bare := by
  have hfunction : ∀ f : Function, (f.reprint r).bare = f.bare := by
    intro f
    simp [Function.reprint, Function.bare, Function.comp_def, Statement.reprint, Statement.bare]
  simp [bare, reprint, hfunction]

/-! ## Prints without numbers -/

namespace Reprint

/-- A print without numbers in which headers and terminators are single-spaced. -/
structure PlainMarks (r : Reprint) : Prop where
  number : ∀ number, r.number number = 0
  text : ∀ line, (Text.words line).head? = some headerMark ∨
    (Text.words line).head? = some terminatorMark → r.text line = Text.singleSpaced line

/-- The lines are told by their texts alone. -/
theorem PlainMarks.map_line {r : Reprint} (h : r.PlainMarks) (lines : List (String × Nat)) :
    lines.map r.line = (lines.map fun line => r.text line.1).map fun text => (text, 0) := by
  simp [line, h.number]

/-- Headers and terminators are single-spaced, and the lines of bodies stay as they are. -/
def marks : Reprint where
  text line :=
    if (Text.words line).head? = some headerMark ∨
      (Text.words line).head? = some terminatorMark then Text.singleSpaced line else line
  number _ := 0
  words_text := by
    intro line
    split
    · exact Text.words_singleSpaced line
    · rfl

/-- All lines are single-spaced. -/
def canonical : Reprint := { singleSpaced with number := fun _ => 0 }

theorem plainMarks_marks : marks.PlainMarks := ⟨fun _ => rfl, fun _ hmark => if_pos hmark⟩

theorem plainMarks_canonical : canonical.PlainMarks := ⟨fun _ => rfl, fun _ _ => rfl⟩

/-- The line of a statement starts with a keyword, so that it stays as it is. -/
theorem text_marks_of_decode {source : String} {line : Int} {statement : Statement}
    (h : Statement.decode source line = .ok statement) : marks.text source = source := by
  obtain ⟨hheader, hterminator⟩ := Statement.head?_ne_mark_of_decode h
  exact if_neg (not_or.2 ⟨hheader, hterminator⟩)

/-- The canonical line of a statement is its line with single spaces. -/
theorem text_canonical_of_decode {source : String} {line : Int} {statement : Statement}
    (h : Statement.decode source line = .ok statement) :
    canonical.text statement.instruction.render = canonical.text source := by
  have hwords := (Statement.decode_eq_ok_iff.1 h).1
  have hrender : statement.instruction.render = Text.singleSpaced source := by
    rw [Text.singleSpaced, hwords]
    rfl
  rw [hrender]
  exact congrArg (" ".intercalate ·) (Text.words_singleSpaced source)

end Reprint

namespace Program

variable {skipBlank skipBlank' : Bool} {lines lines' : List String} {program : Program}

/-- Lines that have a print in common with those of a program are read as a program that has a print
in common with it. -/
theorem parse_of_same_print {r : Reprint}
    (h : (numbered skipBlank' lines').map r.line = (numbered skipBlank lines).map r.line)
    (hparse : parse skipBlank lines = .ok program) :
    ∃ copy, parse skipBlank' lines' = .ok copy ∧ copy.reprint r = program.reprint r := by
  have hlines := Reader.feed_reprint r .start (numbered skipBlank lines)
  have hlines' := Reader.feed_reprint r .start (numbered skipBlank' lines')
  rw [parse_eq_ok_iff.1 hparse] at hlines
  rw [h, hlines] at hlines'
  -- both readers took all lines and hold no definition that is open
  obtain ⟨hreader, hstopped⟩ := Prod.mk.inj hlines'
  obtain ⟨hfunctions, hcurrent⟩ := Reader.mk.inj hreader
  refine ⟨⟨(Reader.start.feed (numbered skipBlank' lines')).1.functions⟩, ?_,
    congrArg Program.mk hfunctions.symm⟩
  rw [parse_eq_ok_iff]
  refine Prod.ext ?_ (Option.map_eq_none_iff.1 hstopped.symm)
  exact congrArg (Reader.mk _) (Option.map_eq_none_iff.1 hcurrent.symm)

end Program

/-! ## Definitions -/

/-- A header has two words. -/
theorem words_header {name : String} (h : IsToken name) :
    Text.words (headerMark ++ " " ++ name) = [headerMark, name] := by
  have hmark : IsToken headerMark := by decide
  have hwords : Text.words (" ".intercalate [headerMark, name]) = [headerMark, name] :=
    Text.words_intercalate (List.forall_mem_cons.2 ⟨hmark, List.forall_mem_singleton.2 h⟩)
  rwa [String.intercalate_cons_cons, String.intercalate_singleton] at hwords

theorem unbroken_header {name : String} (h : IsToken name) :
    Text.Unbroken (headerMark ++ " " ++ name) := by
  have hmark : Text.Unbroken (headerMark ++ " ") := by decide
  exact hmark.append (.of_not_blank h.2)

/-- The canonical line of an instruction whose operands are tokens is a single line. -/
theorem Instruction.unbroken_render {instruction : Instruction}
    (h : ∀ operand ∈ instruction.operands, IsToken operand) :
    Text.Unbroken instruction.render := by
  have hspace : Text.Unbroken " " := by decide
  have hkeyword : Text.Unbroken instruction.keyword.word := by
    cases instruction.keyword <;> decide
  refine hspace.intercalate (List.forall_mem_cons.2 ⟨hkeyword, ?_⟩)
  intro operand hoperand
  exact .of_not_blank (h operand hoperand).2

namespace Block

/-- The name of a block is a word of its header. -/
theorem isToken_name (block : Block) : IsToken block.name := by
  have hword : block.name ∈ Text.words block.header.1 := by simp [block.words_header]
  exact isToken_of_mem_words hword

/-- The lines that define the function of a block have a print in common with the block. -/
theorem print_definition (block : Block) {r : Reprint} (hr : r.PlainMarks) {body : List String}
    (hbody : body.map r.text = block.function.lines.map r.text) :
    (block.function.definition body).map r.text = block.lines.map fun line => r.text line.1 := by
  -- marks are single-spaced, and single-spaced lines are told by their words
  have hheader : r.text (headerMark ++ " " ++ block.name) = r.text block.header.1 := by
    have hwords := words_header block.isToken_name
    rw [hr.text _ (by simp [hwords]), hr.text _ (by simp [block.words_header]), Text.singleSpaced,
      Text.singleSpaced, hwords, block.words_header]
  have hterminator : r.text terminatorMark = r.text block.terminator.1 := by
    have hwords : Text.words terminatorMark = [terminatorMark] := by decide +kernel
    rw [hr.text _ (by simp [hwords]), hr.text _ (by simp [block.words_terminator]),
      Text.singleSpaced, Text.singleSpaced, hwords, block.words_terminator]
  simp only [Function.definition, Block.lines, List.cons_append, List.map_cons, List.map_append,
    List.map_nil, hbody, hterminator]
  refine congrArg₂ List.cons hheader ?_
  rw [Block.function, List.map_map]
  rfl

end Block

namespace Program

variable {skipBlank : Bool} {lines : List String} {program : Program}

/-- What is known of bodies that are written in place of the lines that were read: they consist of
lines, and they have a print in common with those. -/
structure Bodies (program : Program) (r : Reprint) (body : Function → List String) : Prop where
  unbroken : ∀ f ∈ program.functions, ∀ line ∈ body f, Text.Unbroken line
  print : ∀ f ∈ program.functions, (body f).map r.text = f.lines.map r.text

/-- The numbered lines of a program are not blank. -/
theorem not_blank_of_mem_numbered (hparse : parse skipBlank lines = .ok program)
    {line : String × Nat} (h : line ∈ numbered skipBlank lines) : ¬ Text.Blank line.1 := by
  obtain ⟨blocks, hdivided, -⟩ := parse_eq_ok_iff_divided.1 hparse
  rw [hdivided.lines_eq, Option.elim_none, List.append_nil] at h
  obtain ⟨block, -, hblock⟩ := List.mem_flatMap.1 h
  exact block.not_blank hblock

section Written

variable {r : Reprint} {body : Function → List String} (hparse : parse skipBlank lines = .ok program)
  (hr : r.PlainMarks) (hbody : program.Bodies r body)

include hparse hr hbody

/-- The lines that define the functions of a program have a print in common with the lines that the
program was read from. -/
theorem print_definitions :
    (program.definitions body).map r.text =
      (numbered skipBlank lines).map fun line => r.text line.1 := by
  obtain ⟨blocks, hdivided, rfl⟩ := parse_eq_ok_iff_divided.1 hparse
  rw [hdivided.lines_eq, Option.elim_none, List.append_nil, definitions, List.map_flatMap,
    List.map_flatMap, List.flatMap_map]
  apply List.flatMap_congr
  intro block hblock
  exact block.print_definition hr (hbody.print _ (List.mem_map_of_mem hblock))

/-- None of these lines is blank, as their words are those of lines that were read. -/
theorem not_blank_of_mem_definitions {line : String} (h : line ∈ program.definitions body) :
    ¬ Text.Blank line := by
  have hprint := List.mem_map_of_mem (f := r.text) h
  rw [print_definitions hparse hr hbody] at hprint
  obtain ⟨source, hsource, htext⟩ := List.mem_map.1 hprint
  have hwords : Text.words source.1 = Text.words line := by
    rw [← r.words_text source.1, htext, r.words_text]
  rw [← Text.words_eq_nil_iff, ← hwords, Text.words_eq_nil_iff]
  exact not_blank_of_mem_numbered hparse hsource

omit hr in
theorem unbroken_of_mem_definitions {line : String} (h : line ∈ program.definitions body) :
    Text.Unbroken line := by
  obtain ⟨f, hf, hline⟩ := List.mem_flatMap.1 h
  rw [Function.definition, List.cons_append, List.mem_cons, List.mem_append,
    List.mem_singleton] at hline
  rcases hline with rfl | hline | rfl
  · obtain ⟨blocks, -, rfl⟩ := parse_eq_ok_iff_divided.1 hparse
    obtain ⟨block, -, rfl⟩ := List.mem_map.1 hf
    exact unbroken_header block.isToken_name
  · exact hbody.unbroken f hf line hline
  · decide

/-- The text of a program has the lines that define its functions. -/
theorem lines_write : Text.lines (program.write body) = program.definitions body := by
  apply Text.lines_intercalate
  · intro line hline
    exact unbroken_of_mem_definitions hparse hbody hline
  · rintro line hline rfl
    exact not_blank_of_mem_definitions hparse hr hbody hline (by decide)

/-- The text of a program is read, with its blank lines skipped or not, as a program that has a print
in common with it. -/
theorem parse_write : ∃ copy, (∀ skipBlank', parseText skipBlank' (program.write body) = .ok copy) ∧
    copy.reprint r = program.reprint r := by
  have hnumbered : ∀ skipBlank', numbered skipBlank' (program.definitions body) =
      (program.definitions body).zipIdx 1 := by
    -- there is no blank line to skip
    intro skipBlank'
    rw [numbered_eq_filter, List.filter_eq_self]
    intro line hline
    have hmem := List.fst_mem_of_mem_zipIdx hline
    have hblank := not_blank_of_mem_definitions hparse hr hbody hmem
    simp [hblank]
  have hprint : (numbered false (program.definitions body)).map r.line =
      (numbered skipBlank lines).map r.line := by
    have hsame := print_definitions hparse hr hbody
    rw [hr.map_line, hr.map_line, ← hsame, hnumbered]
    refine congrArg (List.map _) ?_
    rw [← Function.comp_def r.text, ← List.map_map, List.zipIdx_map_fst]
  obtain ⟨copy, hcopy, hreprint⟩ := parse_of_same_print hprint hparse
  refine ⟨copy, ?_, hreprint⟩
  intro skipBlank'
  rw [parseText, lines_write hparse hr hbody, ← hcopy, parse, parse, read, read, hnumbered,
    hnumbered]

end Written

/-- The lines of a function that was read are those of its statements. -/
theorem lines_eq_of_parse (hparse : parse skipBlank lines = .ok program) {f : Function}
    (hf : f ∈ program.functions) : f.lines = f.body.map Statement.source := by
  obtain ⟨blocks, -, rfl⟩ := parse_eq_ok_iff_divided.1 hparse
  obtain ⟨block, -, rfl⟩ := List.mem_map.1 hf
  rw [Block.function, ← List.forall₂_eq_eq_eq, List.forall₂_map_left_iff,
    List.forall₂_map_right_iff]
  exact block.reads.imp fun _ _ hreads => (Statement.decode_eq_ok_iff.1 hreads).2.1.symm

/-- A statement that was read is read from its own line under its own number. -/
theorem decode_of_parse (hparse : parse skipBlank lines = .ok program) {f : Function}
    (hf : f ∈ program.functions) {statement : Statement} (hstatement : statement ∈ f.body) :
    ∃ number : Nat, statement.line = number ∧ statement.source ∈ lines ∧
      Statement.decode statement.source number = .ok statement := by
  obtain ⟨source, number, hmem, hdecode⟩ := exists_line_of_parse hparse hf hstatement
  obtain ⟨-, rfl, hline⟩ := Statement.decode_eq_ok_iff.1 hdecode
  have hsource := List.fst_mem_of_mem_zipIdx (List.mem_filter.1 hmem).1
  exact ⟨number, hline, hsource, hdecode⟩

/-- Plain marks leave the functions as they are but for the numbers. -/
theorem reprint_marks (hparse : parse skipBlank lines = .ok program) :
    program.reprint .marks = program.unnumbered := by
  refine congrArg Program.mk (List.map_congr_left ?_)
  intro f hf
  have hbody : f.body.map (Statement.reprint .marks) = f.body.map Statement.unnumbered := by
    apply List.map_congr_left
    intro statement hstatement
    obtain ⟨number, hline, -, hdecode⟩ := decode_of_parse hparse hf hstatement
    rw [Statement.reprint, Reprint.text_marks_of_decode hdecode, hline]
    rfl
  have hlines : f.lines.map Reprint.marks.text = f.lines := by
    rw [lines_eq_of_parse hparse hf, List.map_map]
    apply List.map_congr_left
    intro statement hstatement
    obtain ⟨_, -, -, hdecode⟩ := decode_of_parse hparse hf hstatement
    exact Reprint.text_marks_of_decode hdecode
  rw [Function.reprint, hbody, hlines]
  rfl

section Source

variable {text : String} (htext : parseText skipBlank text = .ok program)

include htext

/-- The lines that were read can be written as bodies. -/
theorem bodies_lines : program.Bodies .marks Function.lines := by
  refine ⟨?_, fun f _ => rfl⟩
  intro f hf line hline
  rw [lines_eq_of_parse htext hf] at hline
  obtain ⟨statement, hstatement, rfl⟩ := List.mem_map.1 hline
  obtain ⟨-, -, hsource, -⟩ := decode_of_parse htext hf hstatement
  exact Text.unbroken_of_mem_lines hsource

/-- The canonical lines can be written as bodies. -/
theorem bodies_canonicalLines : program.Bodies .canonical Function.canonicalLines := by
  constructor
  · intro f hf line hline
    obtain ⟨statement, hstatement, rfl⟩ := List.mem_map.1 hline
    exact Instruction.unbroken_render (operand_isToken_of_parse htext hf hstatement)
  · intro f hf
    rw [lines_eq_of_parse htext hf, Function.canonicalLines, List.map_map, List.map_map]
    apply List.map_congr_left
    intro statement hstatement
    obtain ⟨_, -, -, hdecode⟩ := decode_of_parse htext hf hstatement
    exact Reprint.text_canonical_of_decode hdecode

end Source

/-- A program that was read can be written and read again. Written with the lines of its source, it
is read, with blank lines skipped or not, as the same functions with the same lines and statements,
under other numbers at most. Written with canonical lines, it is read as the same bare functions. And
all three run alike: after any number of steps either none has ended or all have, in the same state
and with the same failure but for the lines and numbers of statements. -/
theorem parse_write_parse (skipBlank : Bool) (text : String) (program : Program)
    (h : parseText skipBlank text = .ok program) :
    ∃ copy plain,
      (∀ skipBlank', parseText skipBlank' (program.write Function.lines) = .ok copy) ∧
      copy.unnumbered = program.unnumbered ∧
      (∀ skipBlank', parseText skipBlank' (program.write Function.canonicalLines) = .ok plain) ∧
      plain.bare = program.bare ∧
      ∀ limit listener journal steps,
        (Setup.run ⟨copy, limit, listener⟩ steps (.initial journal)).map Outcome.bare =
          (Setup.run ⟨program, limit, listener⟩ steps (.initial journal)).map Outcome.bare ∧
        (Setup.run ⟨plain, limit, listener⟩ steps (.initial journal)).map Outcome.bare =
          (Setup.run ⟨program, limit, listener⟩ steps (.initial journal)).map Outcome.bare := by
  obtain ⟨copy, hcopy, hprint⟩ := parse_write h Reprint.plainMarks_marks (bodies_lines h)
  obtain ⟨plain, hplain, hcanonical⟩ :=
    parse_write h Reprint.plainMarks_canonical (bodies_canonicalLines h)
  have hunnumbered : copy.unnumbered = program.unnumbered := by
    rw [← reprint_marks h, ← reprint_marks (hcopy false), hprint]
  have hcopyBare : copy.bare = program.bare := by
    rw [← bare_unnumbered copy, hunnumbered, bare_unnumbered]
  have hplainBare : plain.bare = program.bare := by
    rw [← bare_reprint .canonical plain, hcanonical, bare_reprint]
  refine ⟨copy, plain, hcopy, hunnumbered, hplain, hplainBare, ?_⟩
  intro limit listener journal steps
  exact ⟨Setup.run_of_bare_eq hcopyBare limit listener steps _,
    Setup.run_of_bare_eq hplainBare limit listener steps _⟩

/-- Two functions, the second named like a mark, with odd blanks and lines to skip. -/
def scattered : String := "\n-\t_entry\r\n \x0b\u2028  copy a\u3000 b\n---\n\n- ---\n--- \n"

/-- What is read from it if blank lines are skipped. -/
def scatteredProgram : Program :=
  ⟨[⟨"_entry", ["  copy a\u3000 b"], [⟨.copy "a" "b", "  copy a\u3000 b", 5⟩], 2⟩,
    ⟨"---", [], [], 8⟩]⟩

/-- Written with its own lines, it is read as the same functions, and the run that failed on line 5
fails on line 2. -/
theorem parse_write_parse_scattered :
    parseText true scattered = .ok scatteredProgram ∧
      scatteredProgram.write Function.lines = "- _entry\n  copy a\u3000 b\n---\n- ---\n---" ∧
      ∃ copy outcome outcome',
        parseText false (scatteredProgram.write Function.lines) = .ok copy ∧
        copy.unnumbered = scatteredProgram.unnumbered ∧
        Setup.run ⟨scatteredProgram, 0, none⟩ 0 (.initial #[]) = some outcome ∧
        Setup.run ⟨copy, 0, none⟩ 0 (.initial #[]) = some outcome' ∧
        outcome.failure = some (.fault (.onLine (.unknownVariable "b") 5)) ∧
        outcome'.failure = some (.fault (.onLine (.unknownVariable "b") 2)) ∧
        outcome'.bare = outcome.bare := by
  have hparse : parseText true scattered = .ok scatteredProgram := by decide +kernel
  have hread : parseText false (scatteredProgram.write Function.lines) =
      .ok ⟨[⟨"_entry", ["  copy a\u3000 b"], [⟨.copy "a" "b", "  copy a\u3000 b", 2⟩], 1⟩,
        ⟨"---", [], [], 4⟩]⟩ := by decide +kernel
  obtain ⟨copy, plain, hcopy, hunnumbered, -, -, hruns⟩ := parse_write_parse true scattered _ hparse
  obtain rfl := Except.ok.inj (hread.symm.trans (hcopy false))
  have hrun := (hruns 0 none #[] 0).1
  exact ⟨hparse, by decide +kernel, _, _, _, hread, hunnumbered, rfl, rfl, rfl, rfl,
    Option.some.inj hrun⟩

end Program

end Dataflow
