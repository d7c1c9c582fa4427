import Mathlib.Data.List.Forall2
import Mathlib.Data.List.Nodup
import Dataflow.Proofs.Decoding
import Dataflow.Proofs.Reading

/-!
# The grammar of programs

A `Block` is a header, lines that are read as statements, and a terminator, with the function that
they define; an `Opening` is a block that lacks its terminator. The lines that a reader has taken are
always those of blocks with different names and of at most one opening behind them, and these are
what it holds (`Reader.exists_divided`); conversely a reader takes all such lines
(`Divided.feed_eq`). Both directions follow the list of steps.

Main statement: `parse_accepts_exactly_blocks`.
-/

set_option autoImplicit false

namespace Dataflow

/-! ## Blank lines -/

namespace Text

/-- All characters of a text are blanks. -/
def Blank (text : String) : Prop := ∀ c ∈ text.toList, isBlank c = true

instance (text : String) : Decidable (Blank text) :=
  decidable_of_iff (text.toList.all isBlank = true) List.all_eq_true

theorem wordsFrom_eq_nil_iff {word text : List Char} :
    wordsFrom word text = [] ↔ word = [] ∧ ∀ c ∈ text, isBlank c = true := by
  induction text generalizing word with
  | nil => simp [wordsFrom]
  | cons c rest ih =>
    rw [wordsFrom]
    by_cases hblank : isBlank c = true
    · by_cases hword : word = []
      · simp [hblank, hword, ih]
      · simp [hblank, hword]
    · -- a character of a word makes for a word
      simp [hblank, ih]

/-- A text has no words exactly when it is blank. -/
theorem words_eq_nil_iff {text : String} : words text = [] ↔ Blank text := by
  rw [words, List.map_eq_nil_iff, wordsFrom_eq_nil_iff]
  exact and_iff_right rfl

end Text

/-! ## Blocks -/

/-- A numbered line is read as a statement. -/
def ReadsAs (line : String × Nat) (statement : Statement) : Prop :=
  Statement.decode line.1 line.2 = .ok statement

/-- A header and the lines behind it, which are read as statements. -/
structure Opening where
  name : String
  header : String × Nat
  body : List (String × Nat)
  statements : List Statement
  words_header : Text.words header.1 = [headerMark, name]
  reads : List.Forall₂ ReadsAs body statements

/-- A whole definition: a header, lines that are read as statements, and a terminator. -/
structure Block extends Opening where
  terminator : String × Nat
  words_terminator : Text.words terminator.1 = [terminatorMark]

/-- The numbered lines of a definition that is open. -/
def Opening.lines (opening : Opening) : List (String × Nat) := opening.header :: opening.body

/-- What a reader holds of a definition that is open. -/
def Opening.definition (opening : Opening) : OpenDefinition :=
  ⟨opening.name, opening.header.2, opening.body.map Prod.fst, opening.statements⟩

/-- The numbered lines of a definition. -/
def Block.lines (block : Block) : List (String × Nat) :=
  block.header :: block.body ++ [block.terminator]

/-- The function that a block defines: its name and line are those of the header, its source lines
are those of the body as they stand, and its statements are what these lines are read as. -/
def Block.function (block : Block) : Function :=
  ⟨block.name, block.body.map Prod.fst, block.statements, block.header.2⟩

/-- Numbered lines are those of blocks with different names, and behind them those of a definition
that is open, if there is one. -/
structure Divided (blocks : List Block) (opening : Option Opening) (lines : List (String × Nat)) :
    Prop where
  lines_eq : lines = blocks.flatMap Block.lines ++ opening.elim [] Opening.lines
  nodup : (blocks.map fun block => block.name).Nodup

/-- What a reader holds of blocks and of a definition that is open. -/
def Reader.holding (blocks : List Block) (opening : Option Opening) : Reader :=
  ⟨blocks.map Block.function, opening.map Opening.definition⟩

/-- The names of the functions are those of the blocks. -/
theorem names_functions (blocks : List Block) :
    (blocks.map Block.function).map Function.name = blocks.map fun block => block.name := by
  rw [List.map_map]
  rfl

/-- A line that is read as a statement starts with no mark. -/
theorem Statement.head?_ne_mark_of_decode {source : String} {line : Int} {statement : Statement}
    (h : decode source line = .ok statement) :
    (Text.words source).head? ≠ some headerMark ∧
      (Text.words source).head? ≠ some terminatorMark := by
  rw [(decode_eq_ok_iff.1 h).1, Instruction.words, List.head?_cons]
  cases statement.instruction.keyword <;> decide

/-- Each line of a body is read as a statement. -/
theorem Opening.exists_readsAs (opening : Opening) {line : String × Nat}
    (h : line ∈ opening.body) : ∃ statement, ReadsAs line statement := by
  have hboth := opening.reads.imp fun _ statement hreads =>
    And.intro (Exists.intro statement hreads) hreads
  exact ((List.forall₂_and_left _ _).1 hboth).1 line h

/-! ## What is taken -/

namespace Divided

variable {blocks : List Block} {opening : Option Opening} {lines : List (String × Nat)}

/-- A line that is taken opens a definition behind the blocks, joins the open one, or completes
it to one block more. -/
theorem step (h : Divided blocks opening lines) {reader later : Reader} {line : String × Nat}
    (hreader : reader = .holding blocks opening) (hstep : reader.Step line (.ok later)) :
    ∃ blocks' opening', Divided blocks' opening' (lines ++ [line]) ∧
      later = .holding blocks' opening' := by
  obtain ⟨rfl, hnodup⟩ := h
  cases hstep with
  | @header functions source name number hwords =>
    obtain ⟨rfl, hcurrent⟩ := Reader.mk.inj hreader
    obtain rfl := Option.map_eq_none_iff.1 hcurrent.symm
    refine ⟨blocks, some ⟨name, (source, number), [], [], hwords, .nil⟩, ⟨?_, hnodup⟩, rfl⟩
    simp [Opening.lines]
  | @body functions definition source number statement hheader hterminator hdecode =>
    obtain ⟨rfl, hcurrent⟩ := Reader.mk.inj hreader
    obtain ⟨opened, rfl, rfl⟩ := Option.map_eq_some_iff.1 hcurrent.symm
    -- the line and its statement go to the end of the opening
    have hlast : ReadsAs (source, number) statement := hdecode
    have hreads := List.rel_append opened.reads (.cons hlast .nil)
    refine ⟨blocks, some ⟨opened.name, opened.header, opened.body ++ [(source, number)],
      opened.statements ++ [statement], opened.words_header, hreads⟩, ⟨?_, hnodup⟩, ?_⟩
    · simp [Opening.lines]
    · simp [Reader.holding, Opening.definition, OpenDefinition.append]
  | @terminator functions definition source number hwords hnew =>
    obtain ⟨rfl, hcurrent⟩ := Reader.mk.inj hreader
    obtain ⟨opened, rfl, rfl⟩ := Option.map_eq_some_iff.1 hcurrent.symm
    -- the opening and its terminator are the block that comes last
    refine ⟨blocks ++ [⟨opened, (source, number), hwords⟩], none, ⟨?_, ?_⟩, ?_⟩
    · simp [Opening.lines, Block.lines]
    · rw [names_functions] at hnew
      rw [List.map_append, List.map_singleton, ← List.concat_eq_append]
      exact List.Nodup.concat hnew hnodup
    · simp [Reader.holding, Opening.definition, Block.function, OpenDefinition.close]

/-- Lines that are taken one after the other lead to blocks and an opening with all the lines. -/
theorem feed {more : List (String × Nat)} {later : Reader} (h : Divided blocks opening lines)
    (hfeed : (Reader.holding blocks opening).feed more = (later, none)) :
    ∃ blocks' opening', Divided blocks' opening' (lines ++ more) ∧
      later = .holding blocks' opening' := by
  induction more generalizing blocks opening lines with
  | nil =>
    obtain rfl := (Prod.mk.inj hfeed).1
    exact ⟨blocks, opening, by rwa [List.append_nil], rfl⟩
  | cons line more ih =>
    obtain ⟨source, number⟩ := line
    have hstep := (Reader.holding blocks opening).step source number
    rw [Reader.feed] at hfeed
    cases hnext : (Reader.holding blocks opening).next source number with
    | error fault =>
      simp only [hnext] at hfeed
      cases hfeed
    | ok middle =>
      simp only [hnext] at hfeed
      rw [hnext] at hstep
      obtain ⟨blocks', opening', hdivided, rfl⟩ := h.step rfl hstep
      obtain ⟨blocks'', opening'', hall, rfl⟩ := ih hdivided hfeed
      rw [List.append_assoc] at hall
      exact ⟨blocks'', opening'', hall, rfl⟩

end Divided

namespace Reader

/-- What a reader has taken divides into blocks and an opening, and these are what it holds. -/
theorem exists_divided {lines : List (String × Nat)} {reader : Reader}
    (h : start.feed lines = (reader, none)) :
    ∃ blocks opening, Divided blocks opening lines ∧ reader = .holding blocks opening := by
  have hnothing : Divided [] none [] := ⟨rfl, List.nodup_nil⟩
  exact hnothing.feed h

/-! ## What is accepted -/

/-- Lines that are read as statements join the definition that is open. -/
theorem feed_body {functions : List Function} {definition : OpenDefinition}
    {lines : List (String × Nat)} {statements : List Statement}
    (h : List.Forall₂ ReadsAs lines statements) :
    feed ⟨functions, some definition⟩ lines =
      (⟨functions, some { definition with
        lines := definition.lines ++ lines.map Prod.fst
        body := definition.body ++ statements }⟩, none) := by
  induction h generalizing definition with
  | nil => simp [feed]
  | @cons line statement lines statements hline hrest ih =>
    obtain ⟨source, number⟩ := line
    obtain ⟨hheader, hterminator⟩ := Statement.head?_ne_mark_of_decode hline
    rw [feed_cons_of_ok (Step.body hheader hterminator hline).next_eq, ih]
    simp [OpenDefinition.append]

/-- The lines of an opening open its definition. -/
theorem feed_opening (functions : List Function) (opening : Opening) :
    feed ⟨functions, none⟩ opening.lines = (⟨functions, some opening.definition⟩, none) := by
  rw [Opening.lines, feed_cons_of_ok (Step.header opening.words_header).next_eq,
    feed_body opening.reads]
  rfl

/-- The lines of a block add its function, if the name is new. -/
theorem feed_block {functions : List Function} {block : Block}
    (hnew : block.name ∉ functions.map Function.name) :
    feed ⟨functions, none⟩ block.lines = (⟨functions ++ [block.function], none⟩, none) := by
  have hlines : block.lines = block.toOpening.lines ++ [block.terminator] := rfl
  have hclose : Step ⟨functions, some block.toOpening.definition⟩ block.terminator
      (.ok ⟨functions ++ [block.function], none⟩) := .terminator block.words_terminator hnew
  rw [hlines, feed_append_of_ok (feed_opening functions block.toOpening),
    feed_cons_of_ok hclose.next_eq]
  rfl

/-- The lines of blocks add their functions, if no name comes twice. -/
theorem feed_blocks {functions : List Function} {blocks : List Block}
    (hnodup : (functions.map Function.name ++ blocks.map fun block => block.name).Nodup) :
    feed ⟨functions, none⟩ (blocks.flatMap Block.lines) =
      (⟨functions ++ blocks.map Block.function, none⟩, none) := by
  induction blocks generalizing functions with
  | nil => simp [feed]
  | cons block blocks ih =>
    -- the names read so far and those to come are all different
    have hnew : block.name ∉ functions.map Function.name := by
      intro hold
      exact (List.nodup_append.1 hnodup).2.2 _ hold _ List.mem_cons_self rfl
    rw [List.flatMap_cons, feed_append_of_ok (feed_block hnew), ih]
    · simp
    · rw [List.map_append, List.append_assoc]
      exact hnodup

end Reader

/-- A reader takes all lines that divide into blocks and an opening. -/
theorem Divided.feed_eq {blocks : List Block} {opening : Option Opening}
    {lines : List (String × Nat)} (h : Divided blocks opening lines) :
    Reader.start.feed lines = (.holding blocks opening, none) := by
  obtain ⟨rfl, hnodup⟩ := h
  have hblocks : Reader.start.feed (blocks.flatMap Block.lines) =
      (⟨blocks.map Block.function, none⟩, none) := Reader.feed_blocks hnodup
  rw [Reader.feed_append_of_ok hblocks]
  cases opening with
  | none => rfl
  | some opening => exact Reader.feed_opening _ opening

namespace Program

/-- A program is what its blocks define. -/
theorem parse_eq_ok_iff_divided {skipBlank : Bool} {lines : List String} {program : Program} :
    parse skipBlank lines = .ok program ↔
      ∃ blocks, Divided blocks none (numbered skipBlank lines) ∧
        program = ⟨blocks.map Block.function⟩ := by
  rw [parse_eq_ok_iff]
  constructor
  · intro hfeed
    obtain ⟨blocks, opening, hdivided, hreader⟩ := Reader.exists_divided hfeed
    obtain ⟨hfunctions, hcurrent⟩ := Reader.mk.inj hreader
    obtain rfl := Option.map_eq_none_iff.1 hcurrent.symm
    exact ⟨blocks, hdivided, congrArg Program.mk hfunctions⟩
  · rintro ⟨blocks, hdivided, rfl⟩
    exact hdivided.feed_eq

/-- The lines of a program, counted from 1 and without the blank ones if these are to be skipped,
are those of blocks with different names. -/
structure MadeOf (skipBlank : Bool) (lines : List String) (blocks : List Block) : Prop where
  lines_eq : (lines.zipIdx 1).filter (fun line => ¬ (skipBlank = true ∧ Text.Blank line.1)) =
    blocks.flatMap Block.lines
  nodup : (blocks.map fun block => block.name).Nodup

/-- The lines that are read are those that are not blank, if blank lines are to be skipped. -/
theorem numbered_eq_filter (skipBlank : Bool) (lines : List String) :
    numbered skipBlank lines =
      (lines.zipIdx 1).filter fun line => ¬ (skipBlank = true ∧ Text.Blank line.1) := by
  rw [numbered]
  congr 1
  funext line
  cases skipBlank with
  | false => simp
  | true =>
    by_cases hblank : Text.Blank line.1
    · simp [hblank, Text.words_eq_nil_iff.2 hblank]
    · have hwords : Text.words line.1 ≠ [] := fun h => hblank (Text.words_eq_nil_iff.1 h)
      simp [hblank, hwords]

/-- A program is accepted exactly if its lines are those of blocks with different names. It then
consists of the functions of these blocks in their order. -/
theorem parse_accepts_exactly_blocks (skipBlank : Bool) (lines : List String) :
    ((∃ program, parse skipBlank lines = .ok program) ↔
      ∃ blocks, MadeOf skipBlank lines blocks) ∧
    ∀ blocks, MadeOf skipBlank lines blocks →
      parse skipBlank lines = .ok ⟨blocks.map Block.function⟩ := by
  have hdivided : ∀ blocks, MadeOf skipBlank lines blocks ↔
      Divided blocks none (numbered skipBlank lines) := by
    intro blocks
    rw [numbered_eq_filter]
    constructor
    · rintro ⟨hlines, hnodup⟩
      exact ⟨hlines.trans (List.append_nil _).symm, hnodup⟩
    · rintro ⟨hlines, hnodup⟩
      exact ⟨hlines.trans (List.append_nil _), hnodup⟩
  refine ⟨⟨?_, ?_⟩, ?_⟩
  · rintro ⟨program, hparse⟩
    obtain ⟨blocks, hblocks, -⟩ := parse_eq_ok_iff_divided.1 hparse
    exact ⟨blocks, (hdivided blocks).2 hblocks⟩
  · rintro ⟨blocks, hblocks⟩
    exact ⟨_, parse_eq_ok_iff_divided.2 ⟨blocks, (hdivided blocks).1 hblocks, rfl⟩⟩
  · intro blocks hblocks
    exact parse_eq_ok_iff_divided.2 ⟨blocks, (hdivided blocks).1 hblocks, rfl⟩

/-- Two functions with marks for names, the second one without statements, and blank lines in front
of the first header and behind it. -/
def namedLikeMarks : List String :=
  ["", "- ---", " \t", "  call\tf ", "---", "-\t-", " --- "]

/-- The blocks of these lines. -/
def blocksNamedLikeMarks : List Block :=
  [⟨⟨"---", ("- ---", 2), [("  call\tf ", 4)], [⟨.call "f", "  call\tf ", 4⟩], by decide +kernel,
      .cons (Statement.decode_eq_ok_iff.2 ⟨by decide +kernel, rfl, rfl⟩) .nil⟩,
    ("---", 5), by decide +kernel⟩,
   ⟨⟨"-", ("-\t-", 6), [], [], by decide +kernel, .nil⟩, (" --- ", 7), by decide +kernel⟩]

/-- They are read as the two functions, with the lines and numbers of the blocks. -/
theorem parse_accepts_exactly_blocks_named_like_marks :
    MadeOf true namedLikeMarks blocksNamedLikeMarks ∧
      parse true namedLikeMarks =
        .ok ⟨[⟨"---", ["  call\tf "], [⟨.call "f", "  call\tf ", 4⟩], 2⟩, ⟨"-", [], [], 6⟩]⟩ := by
  have hmade : MadeOf true namedLikeMarks blocksNamedLikeMarks :=
    ⟨by decide +kernel, by decide⟩
  exact ⟨hmade, (parse_accepts_exactly_blocks true namedLikeMarks).2 _ hmade⟩

end Program

end Dataflow
