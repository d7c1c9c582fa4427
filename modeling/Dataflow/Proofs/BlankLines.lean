import Mathlib.Data.List.Basic
import Dataflow.Proofs.Grammar
import Dataflow.Proofs.Reprinting

/-!
# Blank lines

To skip blank lines is to delete them beforehand, except that the other lines keep the numbers they
had. The numbered lines of a program whose blank lines are skipped are those of the program without
its blank lines, each under the number that `Program.placeOf` gives it (`numbered_skipping`), so that
the two texts are prints of one another. A program that can be read without skipping has no blank
line to skip (`Block.not_blank`).

Main statement: `skipping_deletes_blank_lines`.
-/

set_option autoImplicit false

namespace Dataflow

/-! ## Places of the lines that are kept -/

/-- Elements that are kept out of a numbered list keep their numbers: the number of each is where it
stands among all elements. -/
theorem filter_zipIdx {α : Type} (keep : α → Bool) (elements : List α) (first first' : Nat) :
    (elements.zipIdx first).filter (fun element => keep element.1) =
      ((elements.filter keep).zipIdx first').map fun element =>
        (element.1, elements.findIdxNth keep (element.2 - first') + first) := by
  induction elements generalizing first first' with
  | nil => rfl
  | cons element elements ih =>
    rw [List.zipIdx_cons]
    cases hkeep : keep element with
    | true =>
      simp only [List.filter_cons, hkeep, if_true, List.zipIdx_cons, List.map_cons, Nat.sub_self,
        List.findIdxNth_cons_zero_of_pos hkeep, Nat.zero_add, ih (first + 1) (first' + 1)]
      refine congrArg (List.cons _) (List.map_congr_left fun later hlater => ?_)
      -- among the kept ones, each later element comes one further
      have hle : first' + 1 ≤ later.2 := List.le_snd_of_mem_zipIdx hlater
      have hindex : later.2 - first' = later.2 - (first' + 1) + 1 := by omega
      rw [hindex, List.findIdxNth_cons_succ_of_pos hkeep, Nat.add_assoc, Nat.add_comm 1]
    | false =>
      simp only [List.filter_cons, hkeep, Bool.false_eq_true, if_false, ih (first + 1) first',
        List.findIdxNth_cons_of_neg hkeep, Nat.add_assoc, Nat.add_comm 1]

namespace Program

/-- The lines of a program that are not blank. -/
def withoutBlank (lines : List String) : List String :=
  lines.filter fun line => ¬ Text.Blank line

/-- The number, among all lines, of the line with the given number among those that are not blank.
Both are counted from 1. -/
def placeOf (lines : List String) (number : Nat) : Nat :=
  lines.findIdxNth (fun line => ¬ Text.Blank line) (number - 1) + 1

/-- The lines that are not blank as they stand, under their numbers among all lines. -/
def skipping (lines : List String) : Reprint where
  text := id
  number := placeOf lines
  words_text := fun _ => rfl

theorem numbered_false (lines : List String) : numbered false lines = lines.zipIdx 1 := by
  simp [numbered]

theorem numbered_true (lines : List String) :
    numbered true lines = (lines.zipIdx 1).filter fun line => ¬ Text.Blank line.1 := by
  simp [numbered_eq_filter]

/-- The lines that are read if blank lines are skipped. -/
theorem numbered_skipping (lines : List String) :
    numbered true lines = (numbered false (withoutBlank lines)).map (skipping lines).line := by
  rw [numbered_true, numbered_false]
  exact filter_zipIdx (fun line => ¬ Text.Blank line) lines 1 1

end Program

/-! ## Programs without blank lines -/

/-- No line of a block is blank. -/
theorem Block.not_blank (block : Block) {line : String × Nat} (h : line ∈ block.lines) :
    ¬ Text.Blank line.1 := by
  rw [← Text.words_eq_nil_iff]
  rw [Block.lines, List.cons_append, List.mem_cons, List.mem_append, List.mem_singleton] at h
  rcases h with rfl | hbody | rfl
  · rw [block.words_header]
    exact List.cons_ne_nil _ _
  · obtain ⟨statement, hreads⟩ := block.exists_readsAs hbody
    rw [(Statement.decode_eq_ok_iff.1 hreads).1]
    exact List.cons_ne_nil _ _
  · rw [block.words_terminator]
    exact List.cons_ne_nil _ _

namespace Program

/-- If a program can be read with its blank lines, then it has none. -/
theorem numbered_true_of_parse {lines : List String} {program : Program}
    (h : parse false lines = .ok program) : numbered true lines = numbered false lines := by
  obtain ⟨blocks, hdivided, -⟩ := parse_eq_ok_iff_divided.1 h
  have hlines : lines.zipIdx 1 = blocks.flatMap Block.lines := by
    have heq := hdivided.lines_eq
    rwa [Option.elim_none, List.append_nil, numbered_false] at heq
  rw [numbered_true, numbered_false, List.filter_eq_self]
  intro line hline
  -- each line is one of a block
  rw [hlines] at hline
  obtain ⟨block, -, hblock⟩ := List.mem_flatMap.1 hline
  exact decide_eq_true (block.not_blank hblock)

/-- Skipping blank lines is deleting them: the program without its blank lines is read as the same
functions or has the same fault, with each number replaced by that of the line in its place among all
lines. And a program that can be read without skipping is read as the same one with it. -/
theorem skipping_deletes_blank_lines (lines : List String) :
    parse true lines =
      (skipping lines).result (Program.reprint (skipping lines))
        (parse false (withoutBlank lines)) ∧
    ∀ program, parse false lines = .ok program → parse true lines = .ok program := by
  refine ⟨parse_reprint (skipping lines) (numbered_skipping lines), ?_⟩
  intro program hparse
  rw [parse_eq_ok_iff] at hparse ⊢
  rw [numbered_true_of_parse (parse_eq_ok_iff.2 hparse)]
  exact hparse

/-- Blank lines before a definition and in it, and a line that is no instruction. -/
def interrupted : List String := ["", "- f", " \t", "call g", "", "", "frob", "---"]

/-- The fault is on line 7, which is the third line but for the blank ones. Without that line and
the blank ones the definition is read as the same program either way. -/
theorem skipping_deletes_blank_lines_interrupted :
    parse false (withoutBlank interrupted) = .error (.onLine (.unknownInstruction "frob") 3) ∧
      parse true interrupted = .error (.onLine (.unknownInstruction "frob") 7) ∧
      parse false ["- f", "call g", "---"] =
        .ok ⟨[⟨"f", ["call g"], [⟨.call "g", "call g", 2⟩], 1⟩]⟩ ∧
      parse true ["- f", "call g", "---"] =
        .ok ⟨[⟨"f", ["call g"], [⟨.call "g", "call g", 2⟩], 1⟩]⟩ := by
  have hfault : parse false (withoutBlank interrupted) =
      .error (.onLine (.unknownInstruction "frob") 3) := rfl
  have hread : parse false ["- f", "call g", "---"] =
      .ok ⟨[⟨"f", ["call g"], [⟨.call "g", "call g", 2⟩], 1⟩]⟩ := rfl
  have hskipped := (skipping_deletes_blank_lines interrupted).1
  rw [hfault] at hskipped
  exact ⟨hfault, hskipped, hread, (skipping_deletes_blank_lines _).2 _ hread⟩

end Program

end Dataflow
