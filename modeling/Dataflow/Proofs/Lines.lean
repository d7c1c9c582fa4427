import Dataflow.Program.Parse

/-!
# Lines and the texts made of them

A line of a text holds no line break (`Text.unbroken_of_mem_lines`), and lines without a break can be
read back from a text in which one of the `Text.terminators` follows each of them. The one behind the
last line can be left out if this line is not empty (`Text.lines_terminated_append`). Reading carriage
returns as line feeds leaves the lines as they are (`Text.lines_unifyReturns`).

Main statement: `terminators_make_no_difference`, for the programs that texts denote.
-/

set_option autoImplicit false

namespace Dataflow.Text

/-! ## Single lines -/

/-- No character of a text ends a line. -/
def Unbroken (text : String) : Prop := ∀ c ∈ text.toList, isLineBreak c = false

instance (text : String) : Decidable (Unbroken text) :=
  decidable_of_iff ((text.toList.all fun c => !isLineBreak c) = true) (by simp [Unbroken])

theorem Unbroken.append {first second : String} (hfirst : Unbroken first)
    (hsecond : Unbroken second) : Unbroken (first ++ second) := by
  intro c hc
  rw [String.toList_append, List.mem_append] at hc
  rcases hc with hc | hc
  · exact hfirst c hc
  · exact hsecond c hc

theorem Unbroken.intercalate {separator : String} (hseparator : Unbroken separator)
    {pieces : List String} (h : ∀ piece ∈ pieces, Unbroken piece) :
    Unbroken (separator.intercalate pieces) := by
  induction pieces with
  | nil => simp [Unbroken]
  | cons piece rest ih =>
    obtain ⟨hpiece, hrest⟩ := List.forall_mem_cons.1 h
    cases rest with
    | nil => rwa [String.intercalate_singleton]
    | cons next rest =>
      rw [String.intercalate_cons_cons]
      exact (hpiece.append hseparator).append (ih hrest)

/-- A text without a blank is all the more without a line break. -/
theorem Unbroken.of_not_blank {text : String} (h : ∀ c ∈ text.toList, isBlank c = false) :
    Unbroken text := by
  intro c hc
  cases hbreak : isLineBreak c with
  | false => rfl
  | true =>
    have hblank := isBlank_of_isLineBreak hbreak
    rw [h c hc] at hblank
    cases hblank

section Reading

variable {c : Char} {piece : List Char} (line rest : List Char)

theorem linesFrom_cons_of_unbroken (h : isLineBreak c = false) :
    linesFrom line (c :: rest) = linesFrom (c :: line) rest := by
  rw [linesFrom, h]
  · simp
  · -- a carriage return would end the line
    rintro _ rfl _
    cases h

/-- A break ends the line; a carriage return does so too, but takes a line feed with it if one
follows. -/
theorem linesFrom_cons_of_break (h : isLineBreak c = true)
    (hreturn : c = '\r' → rest.head? ≠ some '\n') :
    linesFrom line (c :: rest) = line.reverse :: linesFrom [] rest := by
  rw [linesFrom, h]
  · simp
  · rintro _ rfl rfl
    exact hreturn rfl rfl

/-- Characters that are no breaks belong to the line that is being read. -/
theorem linesFrom_append (hpiece : ∀ c ∈ piece, isLineBreak c = false) :
    linesFrom line (piece ++ rest) = linesFrom (piece.reverse ++ line) rest := by
  induction piece generalizing line with
  | nil => rfl
  | cons c piece ih =>
    have hc : isLineBreak c = false := hpiece c List.mem_cons_self
    rw [List.cons_append, linesFrom_cons_of_unbroken line _ hc,
      ih _ fun d hd => hpiece d (List.mem_cons_of_mem c hd)]
    simp

end Reading

/-- Every line is without a break, provided that none has been read of the current one. -/
theorem unbroken_of_mem_linesFrom {line text piece : List Char}
    (hline : ∀ c ∈ line, isLineBreak c = false) (h : piece ∈ linesFrom line text) :
    ∀ c ∈ piece, isLineBreak c = false := by
  have hread : ∀ c ∈ line.reverse, isLineBreak c = false :=
    fun c hc => hline c (List.mem_reverse.1 hc)
  -- the cases are those of reading: a break hands out the line read so far
  fun_induction linesFrom line text with
  | case1 line hempty => simp at h
  | case2 line hline' =>
    obtain rfl := List.mem_singleton.1 h
    exact hread
  | case3 line rest ih =>
    rcases List.mem_cons.1 h with rfl | h
    · exact hread
    · exact ih (by simp) h (by simp)
  | case4 line c rest hpair hbreak ih =>
    rcases List.mem_cons.1 h with rfl | h
    · exact hread
    · exact ih (by simp) h (by simp)
  | case5 line c rest hpair hbreak ih =>
    have hlonger : ∀ d ∈ c :: line, isLineBreak d = false := by
      intro d hd
      rcases List.mem_cons.1 hd with rfl | hd
      · simpa using hbreak
      · exact hline d hd
    exact ih hlonger h fun d hd => hlonger d (List.mem_reverse.1 hd)

/-- The lines of a text hold no line break. -/
theorem unbroken_of_mem_lines {text line : String} (h : line ∈ lines text) : Unbroken line := by
  obtain ⟨piece, hpiece, rfl⟩ := List.mem_map.1 h
  rw [Unbroken, String.toList_ofList]
  exact unbroken_of_mem_linesFrom (by simp) hpiece

/-! ## Terminators -/

/-- What can end a line. -/
def terminators : List String :=
  ["\n", "\r", "\r\n", "\x0b", "\x0c", "\x1c", "\x1d", "\x1e", "\u0085", "\u2028", "\u2029"]

/-- A line break, or a carriage return with a line feed behind it. -/
inductive IsTerminator : List Char → Prop where
  | single {c : Char} (h : isLineBreak c = true) : IsTerminator [c]
  | pair : IsTerminator ['\r', '\n']

theorem isTerminator_of_mem {terminator : String} (h : terminator ∈ terminators) :
    IsTerminator terminator.toList := by
  simp only [terminators, List.mem_cons, List.not_mem_nil, or_false] at h
  rcases h with rfl | rfl | rfl | rfl | rfl | rfl | rfl | rfl | rfl | rfl | rfl
  case inr.inr.inl => exact .pair
  all_goals exact .single (by decide)

theorem head?_ne_feed {piece : List Char} (h : ∀ c ∈ piece, isLineBreak c = false) :
    piece.head? ≠ some '\n' := by
  intro hfeed
  have hbreak := h '\n' (List.mem_of_mem_head? hfeed)
  cases hbreak

/-- A line is read as itself when a terminator follows it. A carriage return must not be followed by
a line feed, which would belong to it. -/
theorem linesFrom_append_terminator {piece terminator rest : List Char}
    (hpiece : ∀ c ∈ piece, isLineBreak c = false) (hterminator : IsTerminator terminator)
    (hrest : terminator = ['\r'] → rest.head? ≠ some '\n') :
    linesFrom [] (piece ++ terminator ++ rest) = piece :: linesFrom [] rest := by
  rw [List.append_assoc, linesFrom_append [] _ hpiece]
  cases hterminator with
  | single hbreak =>
    rw [List.singleton_append, linesFrom_cons_of_break _ _ hbreak]
    · simp
    · rintro rfl
      exact hrest rfl
  | pair => simp [linesFrom]

/-- Lines with a terminator behind each of them are read as these lines, and what stands behind them
as a last line, unless it is empty. -/
theorem linesFrom_terminated_append {terminator last : List Char} {pieces : List (List Char)}
    (hterminator : IsTerminator terminator)
    (hpieces : ∀ piece ∈ pieces, ∀ c ∈ piece, isLineBreak c = false)
    (hlast : ∀ c ∈ last, isLineBreak c = false) :
    linesFrom [] (pieces.flatMap (· ++ terminator) ++ last) =
      pieces ++ if last = [] then [] else [last] := by
  induction pieces with
  | nil =>
    have hread := linesFrom_append [] [] hlast
    rw [List.append_nil, List.append_nil] at hread
    rw [List.flatMap_nil, List.nil_append, List.nil_append, hread, linesFrom]
    simp
  | cons piece pieces ih =>
    obtain ⟨hpiece, hrest⟩ := List.forall_mem_cons.1 hpieces
    rw [List.flatMap_cons, List.append_assoc, linesFrom_append_terminator hpiece hterminator,
      ih hrest, List.cons_append]
    -- behind a lone carriage return comes an unbroken line or the next carriage return
    rintro rfl
    cases pieces with
    | nil => exact head?_ne_feed hlast
    | cons next pieces =>
      cases next with
      | nil => simp
      | cons c next =>
        have hnext := head?_ne_feed (hrest (c :: next) List.mem_cons_self)
        simpa using hnext

/-! ## Texts made of lines -/

/-- The text in which a terminator follows each line. -/
def terminated (terminator : String) (pieces : List String) : String :=
  String.join (pieces.map (· ++ terminator))

theorem terminated_cons (terminator piece : String) (pieces : List String) :
    terminated terminator (piece :: pieces) = piece ++ terminator ++ terminated terminator pieces := by
  rw [terminated, List.map_cons, String.join_cons, terminated]

/-- With a terminator at its end, a text of lines with terminators between them has one behind each
line. -/
theorem intercalate_append_terminator (terminator piece : String) (pieces : List String) :
    terminator.intercalate (piece :: pieces) ++ terminator =
      terminated terminator (piece :: pieces) := by
  induction pieces generalizing piece with
  | nil => simp [terminated]
  | cons next pieces ih =>
    rw [String.intercalate_cons_cons, String.append_assoc, ih, ← terminated_cons]

section Texts

variable {terminator last : String} {pieces : List String} (hterminator : terminator ∈ terminators)
  (h : ∀ piece ∈ pieces, Unbroken piece)
include hterminator h

theorem lines_terminated_append (hlast : Unbroken last) :
    lines (terminated terminator pieces ++ last) = pieces ++ if last = "" then [] else [last] := by
  have htext : (terminated terminator pieces ++ last).toList =
      (pieces.map String.toList).flatMap (· ++ terminator.toList) ++ last.toList := by
    simp [terminated, List.flatMap_map]
  have hpieces : ∀ piece ∈ pieces.map String.toList, ∀ c ∈ piece, isLineBreak c = false := by
    intro piece hpiece
    obtain ⟨text, htext, rfl⟩ := List.mem_map.1 hpiece
    exact h text htext
  rw [lines, htext, linesFrom_terminated_append (isTerminator_of_mem hterminator) hpieces hlast,
    List.map_append, List.map_map]
  by_cases hempty : last = ""
  · simp [hempty, Function.comp_def]
  · simp [hempty, Function.comp_def]

/-- Lines that are each followed by a terminator are read as these lines. -/
theorem lines_terminated : lines (terminated terminator pieces) = pieces := by
  have hlines := lines_terminated_append hterminator h (by decide : Unbroken "")
  rwa [String.append_empty, if_pos rfl, List.append_nil] at hlines

/-- The terminator of the last line can be left out if this line is not empty. -/
theorem lines_of_append_terminator {text : String}
    (htext : text ++ terminator = terminated terminator pieces)
    (hlast : pieces.getLast? ≠ some "") : lines text = pieces := by
  cases hend : pieces.getLast? with
  | none =>
    -- there is no terminator to leave out
    obtain rfl := List.getLast?_eq_none_iff.1 hend
    obtain ⟨-, rfl⟩ := String.append_eq_empty_iff.1 htext
    exact absurd hterminator (by decide)
  | some last =>
    rw [hend, ne_eq, Option.some.injEq] at hlast
    obtain ⟨front, rfl⟩ := List.getLast?_eq_some_iff.1 hend
    rw [List.forall_mem_append, List.forall_mem_singleton] at h
    have hsplit : terminated terminator (front ++ [last]) =
        terminated terminator front ++ last ++ terminator := by
      simp [terminated, String.append_assoc]
    rw [hsplit, String.append_left_inj] at htext
    rw [htext, lines_terminated_append hterminator h.1 h.2, if_neg hlast]

end Texts

/-- Lines that are each followed by a line feed are read as these lines. -/
theorem lines_join_terminated {pieces : List String} (h : ∀ piece ∈ pieces, Unbroken piece) :
    lines (String.join (pieces.map (· ++ "\n"))) = pieces :=
  lines_terminated (by decide) h

/-- Lines with line feeds between them are read as these lines. An empty one would be lost if it
came last. -/
theorem lines_intercalate {pieces : List String} (h : ∀ piece ∈ pieces, Unbroken piece)
    (hempty : ∀ piece ∈ pieces, piece ≠ "") : lines ("\n".intercalate pieces) = pieces := by
  cases pieces with
  | nil => rfl
  | cons piece rest =>
    apply lines_of_append_terminator (by decide) h (intercalate_append_terminator "\n" piece rest)
    intro hlast
    exact hempty "" (List.mem_of_getLast? hlast) rfl

/-! ## Carriage returns -/

/-- What was read earlier stays in front. -/
theorem unifyReturnsFrom_append (read front text : List Char) :
    unifyReturnsFrom (read ++ front) text = front.reverse ++ unifyReturnsFrom read text := by
  fun_induction unifyReturnsFrom read text with
  | case1 read => simp [unifyReturnsFrom]
  | case2 read rest ih =>
    rw [unifyReturnsFrom]
    exact ih
  | case3 read c rest hpair ih =>
    rw [unifyReturnsFrom]
    · exact ih
    · exact hpair

theorem unifyReturnsFrom_singleton (c : Char) (text : List Char) :
    unifyReturnsFrom [c] text = c :: unifyReturnsFrom [] text :=
  unifyReturnsFrom_append [] [c] text

/-- A line feed ends a line just as a carriage return does, alone or with a line feed behind it. -/
theorem linesFrom_unifyReturns (line text : List Char) :
    linesFrom line (unifyReturnsFrom [] text) = linesFrom line text := by
  fun_induction linesFrom line text with
  | case1 line hempty => simp [unifyReturnsFrom, linesFrom, hempty]
  | case2 line hline => simp [unifyReturnsFrom, linesFrom, hline]
  | case3 line rest ih =>
    rw [unifyReturnsFrom, unifyReturnsFrom_singleton,
      linesFrom_cons_of_break _ _ (by decide) (by simp), ih]
  | case4 line c rest hpair hbreak ih =>
    rw [unifyReturnsFrom, unifyReturnsFrom_singleton]
    · by_cases hreturn : c = '\r'
      · rw [if_pos hreturn, linesFrom_cons_of_break _ _ (by decide) (by simp), ih]
      · rw [if_neg hreturn, linesFrom_cons_of_break _ _ hbreak (absurd · hreturn), ih]
    · exact hpair
  | case5 line c rest hpair hbreak ih =>
    have hunbroken : isLineBreak c = false := by simpa using hbreak
    have hreturn : c ≠ '\r' := by
      rintro rfl
      exact hbreak (by decide)
    rw [unifyReturnsFrom, unifyReturnsFrom_singleton, if_neg hreturn,
      linesFrom_cons_of_unbroken _ _ hunbroken, ih]
    exact hpair

/-- A text has the same lines when its carriage returns are read as line feeds. -/
theorem lines_unifyReturns (text : String) : lines (unifyReturns text) = lines text := by
  rw [lines, lines, unifyReturns, String.toList_ofList, linesFrom_unifyReturns]

end Dataflow.Text

/-! ## Programs -/

namespace Dataflow.Program

/-- Lines without a break are the same program, or have the same fault on the same line, whether they
are given as such or as a text in which one terminator follows each of them. The one behind the last
line can be left out if this line is not empty. -/
theorem terminators_make_no_difference (skipBlank : Bool) {terminator : String}
    (hterminator : terminator ∈ Text.terminators) {lines : List String}
    (hlines : ∀ line ∈ lines, Text.Unbroken line) :
    parseText skipBlank (Text.terminated terminator lines) = parse skipBlank lines ∧
      ∀ text, text ++ terminator = Text.terminated terminator lines → lines.getLast? ≠ some "" →
        parseText skipBlank text = parse skipBlank lines := by
  constructor
  · rw [parseText, Text.lines_terminated hterminator hlines]
  · intro text htext hlast
    rw [parseText, Text.lines_of_append_terminator hterminator hlines htext hlast]

/-- An entry function with a blank line in front of a line that has too many words. -/
def overlong : List String := ["- _entry", "", "del a b", "---"]

/-- The fault is on the third line, also if each line ends in a carriage return and a line feed. -/
theorem terminators_make_no_difference_overlong :
    (∃ cause, parse true overlong = .error (.onLine cause 3)) ∧
      parseText true "- _entry\r\n\r\ndel a b\r\n---\r\n" = parse true overlong ∧
      parseText true "- _entry\r\n\r\ndel a b\r\n---" = parse true overlong := by
  have hlines : ∀ line ∈ overlong, Text.Unbroken line := by decide
  obtain ⟨hwhole, hshorter⟩ :=
    terminators_make_no_difference true (by decide : "\r\n" ∈ Text.terminators) hlines
  refine ⟨⟨_, rfl⟩, ?_, ?_⟩
  · exact hwhole
  · apply hshorter
    · decide
    · decide

end Dataflow.Program
