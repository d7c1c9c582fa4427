/-!
# Blanks and words

Program lines are read as words: maximal runs of characters without a blank. `isBlank` lists the
blanks, and `words` cuts a text into its words in order. A numeral may be surrounded by the blanks
of `isMargin`, which leaves out the four information separators.
-/

set_option autoImplicit false

namespace Dataflow.Text

/-! ## Characters -/

/-- Whether a character separates words. -/
def isBlank (c : Char) : Bool :=
  let n := c.toNat
  (0x9 ≤ n && n ≤ 0xD) || (0x1C ≤ n && n ≤ 0x20) || n == 0x85 || n == 0xA0 || n == 0x1680 ||
    (0x2000 ≤ n && n ≤ 0x200A) || n == 0x2028 || n == 0x2029 || n == 0x202F || n == 0x205F ||
    n == 0x3000

/-- Whether a character is one of the four information separators. -/
def isInformationSeparator (c : Char) : Bool :=
  0x1C ≤ c.toNat && c.toNat ≤ 0x1F

/-- Whether a character may surround a numeral. -/
def isMargin (c : Char) : Bool :=
  isBlank c && !isInformationSeparator c

/-! ## Words -/

/-- The words of a text of which `word` (in reverse) has been read of the current word. -/
def wordsFrom (word : List Char) : List Char → List (List Char)
  | [] => if word.isEmpty then [] else [word.reverse]
  | c :: rest =>
    if isBlank c then
      if word.isEmpty then wordsFrom [] rest else word.reverse :: wordsFrom [] rest
    else wordsFrom (c :: word) rest

/-- The maximal blank-free runs of a text, in order. -/
def words (text : String) : List String :=
  (wordsFrom [] text.toList).map String.ofList

/-- A word as `words` yields it: some characters, none of them a blank. -/
def IsWord (word : List Char) : Prop :=
  word ≠ [] ∧ ∀ c ∈ word, isBlank c = false

/-- Every piece is a word, provided that no blank has been read of the current one. -/
theorem isWord_of_mem_wordsFrom {word text piece : List Char}
    (hword : ∀ c ∈ word, isBlank c = false) (h : piece ∈ wordsFrom word text) : IsWord piece := by
  induction text generalizing word with
  | nil =>
    rw [wordsFrom] at h
    split at h
    · simp at h
    · next hne =>
      rw [List.mem_singleton] at h
      subst h
      exact ⟨by simpa using hne, fun c hc => hword c (List.mem_reverse.1 hc)⟩
  | cons c rest ih =>
    rw [wordsFrom] at h
    split at h
    · split at h
      · exact ih (by simp) h
      · next hne =>
        rcases List.mem_cons.1 h with rfl | h
        · exact ⟨by simpa using hne, fun c hc => hword c (List.mem_reverse.1 hc)⟩
        · exact ih (by simp) h
    · next hblank =>
      refine ih (fun d hd => ?_) h
      rcases List.mem_cons.1 hd with rfl | hd
      · simpa using hblank
      · exact hword d hd

/-- The words of a text are words. -/
theorem isWord_of_mem_words {text word : String} (h : word ∈ words text) : IsWord word.toList := by
  obtain ⟨piece, hpiece, rfl⟩ := List.mem_map.1 h
  rw [String.toList_ofList]
  exact isWord_of_mem_wordsFrom (by simp) hpiece

/-- A text without the margin characters at its two ends. -/
def trimMargin (text : List Char) : List Char :=
  ((text.dropWhile isMargin).reverse.dropWhile isMargin).reverse

/-! ## Examples -/

example : words "  bind\tin  a " = ["bind", "in", "a"] := by decide +kernel

example : words " \t " = [] := by decide +kernel

end Dataflow.Text
