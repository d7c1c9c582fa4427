import Dataflow.Program.Parse

/-!
# Steps of reading and whole texts

`Reader.Step` lists what a reader can make of one numbered line: a header, a body line or a
terminator that it takes, or one of six reasons to turn the line down. Every step is in the list
(`Reader.step`), and the list determines it (`Reader.Step.next_eq`). What comes behind a line that is
turned down makes no difference (`Reader.feed_append_of_fault`), and lines that are taken are taken
one by one (`Reader.feed_prefix`). A program is accepted when all its lines were taken and no
definition is left open (`Program.parse_eq_ok_iff`).
-/

set_option autoImplicit false

namespace Dataflow

namespace Reader

/-! ## One line -/

/-- What a reader makes of a line. -/
inductive Step : Reader → String × Nat → Except Fault Reader → Prop where
  | header {functions : List Function} {source name : String} {line : Nat}
      (hwords : Text.words source = [headerMark, name]) :
      Step ⟨functions, none⟩ (source, line) (.ok ⟨functions, some (.start name line)⟩)
  | body {functions : List Function} {definition : OpenDefinition} {source : String} {line : Nat}
      {statement : Statement} (hheader : (Text.words source).head? ≠ some headerMark)
      (hterminator : (Text.words source).head? ≠ some terminatorMark)
      (hdecode : Statement.decode source line = .ok statement) :
      Step ⟨functions, some definition⟩ (source, line)
        (.ok ⟨functions, some (definition.append source statement)⟩)
  | terminator {functions : List Function} {definition : OpenDefinition} {source : String}
      {line : Nat} (hwords : Text.words source = [terminatorMark])
      (hnew : definition.name ∉ functions.map Function.name) :
      Step ⟨functions, some definition⟩ (source, line)
        (.ok ⟨functions ++ [definition.close], none⟩)
  | nested {functions : List Function} {definition : OpenDefinition} {source : String} {line : Nat}
      (hheader : (Text.words source).head? = some headerMark) :
      Step ⟨functions, some definition⟩ (source, line)
        (.error (.onLine (.alreadyInDefinition definition.name) line))
  | misnamed {functions : List Function} {source : String} {line : Nat}
      (hheader : (Text.words source).head? = some headerMark)
      (hname : ∀ name, Text.words source ≠ [headerMark, name]) :
      Step ⟨functions, none⟩ (source, line)
        (.error (.onLine (.malformedInstruction source "definition header is '- <name>'") line))
  | outside {functions : List Function} {source : String} {line : Nat}
      (hheader : (Text.words source).head? ≠ some headerMark) :
      Step ⟨functions, none⟩ (source, line) (.error (.onLine (.notInDefinition source) line))
  | overfull {functions : List Function} {definition : OpenDefinition} {source : String}
      {line : Nat} (hterminator : (Text.words source).head? = some terminatorMark)
      (hwords : Text.words source ≠ [terminatorMark]) :
      Step ⟨functions, some definition⟩ (source, line)
        (.error (.onLine
          (.malformedInstruction source "definition terminator takes no operands") line))
  | duplicate {functions : List Function} {definition : OpenDefinition} {source : String}
      {line : Nat} (hwords : Text.words source = [terminatorMark])
      (hold : definition.name ∈ functions.map Function.name) :
      Step ⟨functions, some definition⟩ (source, line)
        (.error (.onLine (.duplicateFunction definition.name) definition.line))
  | undecodable {functions : List Function} {definition : OpenDefinition} {source : String}
      {line : Nat} {fault : Fault} (hheader : (Text.words source).head? ≠ some headerMark)
      (hterminator : (Text.words source).head? ≠ some terminatorMark)
      (hdecode : Statement.decode source line = .error fault) :
      Step ⟨functions, some definition⟩ (source, line) (.error fault)

/-- A name is taken when a function of that name was read. -/
theorem any_name_iff {functions : List Function} {name : String} :
    (functions.any fun f => f.name = name) = true ↔ name ∈ functions.map Function.name := by
  simp [List.any_eq_true, List.mem_map]

/-- A line without words has no first word, and no mark is empty. -/
theorem headD_eq_iff {words : List String} {mark : String} (hmark : mark ≠ "") :
    words.headD "" = mark ↔ words.head? = some mark := by
  cases words with
  | nil => simp [hmark.symm]
  | cons first rest => simp

section Marks

variable {source : String} (reader : Reader) (line : Nat)

theorem next_of_header (h : (Text.words source).head? = some headerMark) :
    reader.next source line = reader.header source line := by
  have hfirst := (headD_eq_iff (by decide)).2 h
  simp only [next, hfirst, if_true]

theorem next_of_terminator (h : (Text.words source).head? = some terminatorMark) :
    reader.next source line = reader.terminator source line := by
  have hfirst := (headD_eq_iff (by decide)).2 h
  have hmarks : terminatorMark ≠ headerMark := by decide
  simp only [next, hfirst, if_neg hmarks, if_true]

theorem next_of_body (hheader : (Text.words source).head? ≠ some headerMark)
    (hterminator : (Text.words source).head? ≠ some terminatorMark) :
    reader.next source line = reader.bodyLine source line := by
  have hfirst : (Text.words source).headD "" ≠ headerMark :=
    fun h => hheader ((headD_eq_iff (by decide)).1 h)
  have hsecond : (Text.words source).headD "" ≠ terminatorMark :=
    fun h => hterminator ((headD_eq_iff (by decide)).1 h)
  simp only [next, if_neg hfirst, if_neg hsecond]

end Marks

/-- Every step is in the list. -/
theorem step (reader : Reader) (source : String) (line : Nat) :
    reader.Step (source, line) (reader.next source line) := by
  obtain ⟨functions, current⟩ := reader
  by_cases hheader : (Text.words source).head? = some headerMark
  · rw [next_of_header _ line hheader, header]
    cases current with
    | some definition => exact .nested hheader
    | none =>
      simp only
      split
      · next first name hwords =>
        rw [hwords] at hheader
        obtain rfl := Option.some.inj hheader
        exact .header hwords
      · next hwords =>
        exact .misnamed hheader fun name hname => hwords _ name hname
  · by_cases hterminator : (Text.words source).head? = some terminatorMark
    · rw [next_of_terminator _ line hterminator, terminator]
      cases current with
      | none => exact .outside hheader
      | some definition =>
        simp only
        split
        · next first hwords =>
          rw [hwords] at hterminator
          obtain rfl := Option.some.inj hterminator
          rw [register]
          split
          · next hold => exact .duplicate hwords (any_name_iff.1 hold)
          · next hnew => exact .terminator hwords fun hold => hnew (any_name_iff.2 hold)
        · next hwords =>
          exact .overfull hterminator fun hmark => hwords _ hmark
    · rw [next_of_body _ line hheader hterminator, bodyLine]
      cases current with
      | none => exact .outside hheader
      | some definition =>
        cases hdecode : Statement.decode source line with
        | ok statement => exact .body hheader hterminator hdecode
        | error fault => exact .undecodable hheader hterminator hdecode

/-- The list determines the step. -/
theorem Step.next_eq {reader : Reader} {source : String} {line : Nat} {result : Except Fault Reader}
    (h : reader.Step (source, line) result) : reader.next source line = result := by
  cases h with
  | header hwords =>
    rw [next_of_header _ line (by rw [hwords]; rfl), Reader.header]
    simp only [hwords]
  | body hheader hterminator hdecode =>
    rw [next_of_body _ line hheader hterminator, bodyLine]
    simp only [hdecode]
  | terminator hwords hnew =>
    rw [next_of_terminator _ line (by rw [hwords]; rfl), Reader.terminator]
    simp only [hwords, register]
    exact if_neg fun hold => hnew (any_name_iff.1 hold)
  | nested hheader =>
    rw [next_of_header _ line hheader]
    rfl
  | misnamed hheader hname =>
    rw [next_of_header _ line hheader, Reader.header]
    simp only
    split
    · next first name hwords =>
      rw [hwords] at hheader
      obtain rfl := Option.some.inj hheader
      exact absurd hwords (hname name)
    · rfl
  | outside hheader =>
    -- outside a definition a terminator is as misplaced as any other line
    by_cases hterminator : (Text.words source).head? = some terminatorMark
    · rw [next_of_terminator _ line hterminator]
      rfl
    · rw [next_of_body _ line hheader hterminator]
      rfl
  | overfull hterminator hwords =>
    rw [next_of_terminator _ line hterminator, Reader.terminator]
    simp only
    split
    · next first hfirst =>
      rw [hfirst] at hterminator
      obtain rfl := Option.some.inj hterminator
      exact absurd hfirst hwords
    · rfl
  | duplicate hwords hold =>
    rw [next_of_terminator _ line (by rw [hwords]; rfl), Reader.terminator]
    simp only [hwords, register]
    exact if_pos (any_name_iff.2 hold)
  | undecodable hheader hterminator hdecode =>
    rw [next_of_body _ line hheader hterminator, bodyLine]
    simp only [hdecode]

/-! ## Lines in a row -/

section Feed

variable {reader later : Reader} {front back lines : List (String × Nat)} {fault : Fault}

theorem feed_cons_of_ok {source : String} {line : Nat} (h : reader.next source line = .ok later)
    (rest : List (String × Nat)) : reader.feed ((source, line) :: rest) = later.feed rest := by
  rw [feed]
  simp only [h]

/-- After lines that were taken, reading goes on with the lines behind them. -/
theorem feed_append_of_ok (h : reader.feed front = (later, none)) :
    reader.feed (front ++ back) = later.feed back := by
  induction front generalizing reader with
  | nil =>
    obtain rfl := (Prod.mk.inj h).1
    rfl
  | cons first front ih =>
    obtain ⟨source, line⟩ := first
    rw [feed] at h
    cases hnext : reader.next source line with
    | error fault =>
      simp only [hnext] at h
      cases h
    | ok middle =>
      simp only [hnext] at h
      rw [List.cons_append, feed_cons_of_ok hnext]
      exact ih h

/-- Nothing is read behind a line that was turned down. -/
theorem feed_append_of_fault (h : reader.feed front = (later, some fault)) :
    reader.feed (front ++ back) = (later, some fault) := by
  induction front generalizing reader with
  | nil => cases h
  | cons first front ih =>
    obtain ⟨source, line⟩ := first
    rw [feed] at h
    rw [List.cons_append, feed]
    cases hnext : reader.next source line with
    | error other =>
      simp only [hnext] at h ⊢
      exact h
    | ok middle =>
      simp only [hnext] at h ⊢
      exact ih h

/-- If all lines were taken, so were the first of them. -/
theorem feed_prefix (h : reader.feed (front ++ back) = (later, none)) :
    ∃ middle, reader.feed front = (middle, none) := by
  cases hfront : reader.feed front with
  | mk middle stopped =>
    cases stopped with
    | none => exact ⟨middle, rfl⟩
    | some fault =>
      rw [feed_append_of_fault hfront] at h
      cases h

end Feed

end Reader

/-! ## Whole programs -/

namespace Program

variable {skipBlank : Bool} {lines : List String}

/-- A program is accepted when all its lines are taken and no definition is left open. -/
theorem parse_eq_ok_iff {program : Program} :
    parse skipBlank lines = .ok program ↔
      Reader.start.feed (numbered skipBlank lines) = (⟨program.functions, none⟩, none) := by
  rw [parse, read]
  cases Reader.start.feed (numbered skipBlank lines) with
  | mk reader stopped =>
    obtain ⟨functions, current⟩ := reader
    cases stopped with
    | some fault => simp
    | none =>
      cases current with
      | some definition => simp [Reader.endFault]
      | none =>
        simp only [Reader.endFault, Option.map_none, Except.ok.injEq, Prod.mk.injEq,
          Reader.mk.injEq, and_true]
        exact ⟨fun h => congrArg Program.functions h, fun h => congrArg Program.mk h⟩

/-- A program is refused when a line is turned down, or when a definition is open at the end. -/
theorem parse_eq_error_iff {fault : Fault} :
    parse skipBlank lines = .error fault ↔
      (∃ reader, Reader.start.feed (numbered skipBlank lines) = (reader, some fault)) ∨
      ∃ functions definition,
        Reader.start.feed (numbered skipBlank lines) = (⟨functions, some definition⟩, none) ∧
        fault = .unplaced (.unterminatedDefinition definition.name) := by
  rw [parse, read]
  cases Reader.start.feed (numbered skipBlank lines) with
  | mk reader stopped =>
    obtain ⟨functions, current⟩ := reader
    cases stopped with
    | some other => simp
    | none =>
      cases current with
      | none => simp [Reader.endFault]
      | some definition =>
        constructor
        · intro h
          exact Or.inr ⟨functions, definition, rfl, (Except.error.inj h).symm⟩
        · rintro (⟨reader, hreader⟩ | ⟨functions', definition', hreader, rfl⟩)
          · cases hreader
          · cases hreader
            rfl

end Program

end Dataflow
