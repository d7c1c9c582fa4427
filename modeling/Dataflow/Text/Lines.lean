import Dataflow.Text.Blank

/-!
# Lines of a text

A line ends at any of the line breaks of `isLineBreak`, where a carriage return followed by a line
feed is one break. The break is no part of the line, and a break at the very end opens no further
line. Text files additionally have their carriage returns read as line feeds.
-/

set_option autoImplicit false

namespace Dataflow.Text

/-- Whether a character ends a line on its own. -/
def isLineBreak (c : Char) : Bool :=
  let n := c.toNat
  (0xA ≤ n && n ≤ 0xD) || (0x1C ≤ n && n ≤ 0x1E) || n == 0x85 || n == 0x2028 || n == 0x2029

/-- A line break separates words. -/
theorem isBlank_of_isLineBreak {c : Char} (h : isLineBreak c = true) : isBlank c = true := by
  simp only [isLineBreak, isBlank, Bool.or_eq_true, Bool.and_eq_true, decide_eq_true_eq,
    beq_iff_eq] at h ⊢
  omega

/-- The lines of a text of which `line` (in reverse) has been read of the current line. -/
def linesFrom (line : List Char) : List Char → List (List Char)
  | [] => if line.isEmpty then [] else [line.reverse]
  | '\r' :: '\n' :: rest => line.reverse :: linesFrom [] rest
  | c :: rest =>
    if isLineBreak c then line.reverse :: linesFrom [] rest else linesFrom (c :: line) rest

/-- The lines of a text, without their breaks. -/
def lines (text : String) : List String :=
  (linesFrom [] text.toList).map String.ofList

/-- The characters behind `read` (in reverse), with returns unified. -/
def unifyReturnsFrom (read : List Char) : List Char → List Char
  | [] => read.reverse
  | '\r' :: '\n' :: rest => unifyReturnsFrom ('\n' :: read) rest
  | c :: rest => unifyReturnsFrom ((if c = '\r' then '\n' else c) :: read) rest

/-- A text with each carriage return, alone or before a line feed, read as one line feed. -/
def unifyReturns (text : String) : String :=
  String.ofList (unifyReturnsFrom [] text.toList)

/-! ## Examples -/

example : lines "a\r\nb\r\rc\n" = ["a", "b", "", "c"] := by decide +kernel

example : unifyReturns "a\r\nb\r\rc" = "a\nb\n\nc" := by decide +kernel

end Dataflow.Text
