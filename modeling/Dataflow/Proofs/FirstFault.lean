import Mathlib.Data.List.Induction
import Dataflow.Proofs.Grammar

/-!
# The line that decides a fault

A program is refused at the first line that cannot follow the lines before it. Reading stops there
(`Program.exists_rejected`), so that the lines behind it make no difference, and all shorter
beginnings are programs or lack the terminator of one definition (`Program.parse_of_taken`). The
fault names that line, except that a name which is defined twice is found out at the terminator of
the second definition and reported at its header (`Reader.Step.fault_cases`). A definition that is
left open at the end is no fault of a line.

Main statement: `first_bad_line_decides`.
-/

set_option autoImplicit false

namespace Dataflow

/-! ## Numbers of lines -/

namespace Program

/-- Lines keep their numbers when others follow. -/
theorem exists_numbered_append (skipBlank : Bool) (front back : List String) :
    ∃ rest, numbered skipBlank (front ++ back) = numbered skipBlank front ++ rest := by
  simp only [numbered, List.zipIdx_append, List.filter_append]
  exact ⟨_, rfl⟩

/-- One line more is read under the next number, unless it is skipped. -/
theorem numbered_concat (skipBlank : Bool) (lines : List String) (line : String) :
    numbered skipBlank (lines ++ [line]) = numbered skipBlank lines ∨
      numbered skipBlank (lines ++ [line]) =
        numbered skipBlank lines ++ [(line, lines.length + 1)] := by
  rw [numbered, numbered, List.zipIdx_append, List.filter_append, List.zipIdx_singleton,
    Nat.add_comm 1]
  cases hskipped : skipBlank && (Text.words line).isEmpty with
  | true =>
    refine Or.inl ?_
    rw [List.filter_cons_of_neg (by simp [hskipped]), List.filter_nil, List.append_nil]
  | false =>
    refine Or.inr ?_
    rw [List.filter_cons_of_pos (by simp [hskipped]), List.filter_nil]

end Program

/-! ## Faults of single lines -/

/-- The terminator of a definition whose name was read before; the fault is on the header. -/
structure Reader.Repeats (reader : Reader) (source : String) (definition : OpenDefinition)
    (fault : Fault) : Prop where
  current : reader.current = some definition
  words : Text.words source = [terminatorMark]
  old : definition.name ∈ reader.functions.map Function.name
  fault_eq : fault = .onLine (.duplicateFunction definition.name) definition.line

namespace Reader.Step

variable {reader : Reader} {source : String} {line : Nat} {fault : Fault}

/-- A line is turned down with a fault on that line, or for a name that is defined again. -/
theorem fault_cases (h : reader.Step (source, line) (.error fault)) :
    (fault.line = some (line : Int) ∧ ∀ name, fault.cause ≠ .duplicateFunction name) ∨
      ∃ definition, reader.Repeats source definition fault := by
  cases h with
  | nested hheader => exact Or.inl ⟨rfl, nofun⟩
  | misnamed hheader hname => exact Or.inl ⟨rfl, nofun⟩
  | outside hheader => exact Or.inl ⟨rfl, nofun⟩
  | overfull hterminator hwords => exact Or.inl ⟨rfl, nofun⟩
  | duplicate hwords hold => exact Or.inr ⟨_, rfl, hwords, hold, rfl⟩
  | undecodable hheader hterminator hdecode =>
    rcases Statement.decode_fault hdecode with ⟨token, rfl⟩ | ⟨reason, rfl⟩
    · exact Or.inl ⟨rfl, nofun⟩
    · exact Or.inl ⟨rfl, nofun⟩

/-- No line is turned down for want of a terminator. -/
theorem cause_ne_unterminated (h : reader.Step (source, line) (.error fault)) (name : String) :
    fault.cause ≠ .unterminatedDefinition name := by
  cases h with
  | nested hheader => nofun
  | misnamed hheader hname => nofun
  | outside hheader => nofun
  | overfull hterminator hwords => nofun
  | duplicate hwords hold => nofun
  | undecodable hheader hterminator hdecode =>
    rcases Statement.decode_fault hdecode with ⟨token, rfl⟩ | ⟨reason, rfl⟩
    · nofun
    · nofun

end Reader.Step

/-! ## Definitions that are left open -/

/-- The last header among numbered lines is that of the given name, and no terminator follows it. -/
inductive LeftOpen (lines : List (String × Nat)) (name : String) : Prop where
  | intro {before after : List (String × Nat)} {header : String × Nat}
      (hlines : lines = before ++ header :: after)
      (hheader : Text.words header.1 = [headerMark, name])
      (hafter : ∀ line ∈ after, (Text.words line.1).head? ≠ some headerMark ∧
        (Text.words line.1).head? ≠ some terminatorMark)

/-- The lines of a body start with no mark. -/
theorem Opening.head?_ne_mark (opening : Opening) :
    ∀ line ∈ opening.body, (Text.words line.1).head? ≠ some headerMark ∧
      (Text.words line.1).head? ≠ some terminatorMark := by
  intro line hline
  obtain ⟨statement, hreads⟩ := opening.exists_readsAs hline
  exact Statement.head?_ne_mark_of_decode hreads

/-- Behind blocks and an opening, the name of the opening is left open. -/
theorem Divided.leftOpen {blocks : List Block} {opening : Opening} {lines : List (String × Nat)}
    (h : Divided blocks (some opening) lines) : LeftOpen lines opening.name :=
  ⟨h.lines_eq, opening.words_header, opening.head?_ne_mark⟩

/-! ## Beginnings of a program -/

namespace Program

variable {skipBlank : Bool} {lines : List String}

/-- Lines that are all taken are a program, or all but the terminator of one. -/
theorem parse_of_taken {reader : Reader}
    (h : Reader.start.feed (numbered skipBlank lines) = (reader, none)) :
    (∃ program, parse skipBlank lines = .ok program) ∨
      ∃ name, parse skipBlank lines = .error (.unplaced (.unterminatedDefinition name)) ∧
        LeftOpen (numbered skipBlank lines) name := by
  obtain ⟨blocks, opening, hdivided, rfl⟩ := Reader.exists_divided h
  cases opening with
  | none => exact Or.inl ⟨_, parse_eq_ok_iff_divided.2 ⟨blocks, hdivided, rfl⟩⟩
  | some opening =>
    refine Or.inr ⟨opening.name, ?_, hdivided.leftOpen⟩
    exact parse_eq_error_iff.2 (Or.inr ⟨_, _, h, rfl⟩)

/-- Reading stops at a line that is turned down, after all lines before it were taken. -/
theorem exists_rejected {reader : Reader} {fault : Fault}
    (h : Reader.start.feed (numbered skipBlank lines) = (reader, some fault)) :
    ∃ before line after, lines = before ++ line :: after ∧
      Reader.start.feed (numbered skipBlank before) = (reader, none) ∧
      numbered skipBlank (before ++ [line]) =
        numbered skipBlank before ++ [(line, before.length + 1)] ∧
      reader.Step (line, before.length + 1) (.error fault) := by
  induction lines using List.reverseRecOn with
  | nil => cases h
  | append_singleton lines line ih =>
    cases hbefore : Reader.start.feed (numbered skipBlank lines) with
    | mk earlier stopped =>
      rcases numbered_concat skipBlank lines line with hskipped | hread
      · -- a line that is skipped stops nothing
        rw [hskipped] at h
        obtain ⟨before, bad, after, rfl, hrest⟩ := ih h
        exact ⟨before, bad, after ++ [line], by simp, hrest⟩
      · cases stopped with
        | some other =>
          rw [hread, Reader.feed_append_of_fault hbefore] at h
          obtain ⟨before, bad, after, rfl, hrest⟩ := ih (hbefore.trans h)
          exact ⟨before, bad, after ++ [line], by simp, hrest⟩
        | none =>
          rw [hread, Reader.feed_append_of_ok hbefore, Reader.feed] at h
          have hstep := earlier.step line (lines.length + 1)
          cases hnext : earlier.next line (lines.length + 1) with
          | ok later =>
            simp only [hnext] at h
            cases h
          | error other =>
            simp only [hnext] at h
            obtain ⟨rfl, hfault⟩ := Prod.mk.inj h
            obtain rfl := Option.some.inj hfault
            rw [hnext] at hstep
            exact ⟨lines, line, [], rfl, hbefore, hread, hstep⟩

/-! ## The first bad line -/

/-- So many lines of a program decide its fault, and no fewer: whatever follows them, the fault is
the same, and every shorter beginning is a program or lacks the terminator of the definition that
it leaves open. -/
structure DecidedBy (skipBlank : Bool) (lines : List String) (fault : Fault) (count : Nat) :
    Prop where
  pos : 1 ≤ count
  le_length : count ≤ lines.length
  same : ∀ others : List String, others.take count = lines.take count →
    parse skipBlank others = .error fault
  shorter : ∀ fewer, fewer < count →
    (∃ program, parse skipBlank (lines.take fewer) = .ok program) ∨
      ∃ name, parse skipBlank (lines.take fewer) =
          .error (.unplaced (.unterminatedDefinition name)) ∧
        LeftOpen (numbered skipBlank (lines.take fewer)) name

/-- Numbered lines are those of blocks with different names and of one more block, which defines the
name of an earlier one again; its header and its terminator have the given numbers. -/
inductive DefinedAgain (lines : List (String × Nat)) (name : String) (header terminator : Nat) :
    Prop where
  | intro {earlier : List Block} {second : Block}
      (hlines : lines = earlier.flatMap Block.lines ++ second.lines)
      (hnodup : (earlier.map fun block => block.name).Nodup)
      (hfirst : ∃ first ∈ earlier, first.name = name) (hsecond : second.name = name)
      (hheader : second.header.2 = header) (hterminator : second.terminator.2 = terminator)

section Rejected

variable {before after : List String} {line : String} {reader : Reader} {fault : Fault}

/-- A line that is turned down decides the fault. -/
theorem decidedBy_of_rejected
    (htaken : Reader.start.feed (numbered skipBlank before) = (reader, none))
    (hread : numbered skipBlank (before ++ [line]) =
      numbered skipBlank before ++ [(line, before.length + 1)])
    (hstep : reader.Step (line, before.length + 1) (.error fault)) :
    DecidedBy skipBlank (before ++ line :: after) fault (before.length + 1) where
  pos := Nat.le_add_left 1 _
  le_length := by simp
  same := by
    intro others hothers
    -- the lines that agree are those up to the bad one
    have htake : (before ++ line :: after).take (before.length + 1) = before ++ [line] :=
      List.take_length_add_append 1
    rw [htake] at hothers
    rw [← List.take_append_drop (before.length + 1) others, hothers]
    obtain ⟨rest, hrest⟩ :=
      exists_numbered_append skipBlank (before ++ [line]) (others.drop (before.length + 1))
    have hbad : Reader.start.feed (numbered skipBlank (before ++ [line])) =
        (reader, some fault) := by
      rw [hread, Reader.feed_append_of_ok htaken, Reader.feed]
      simp only [hstep.next_eq]
    refine parse_eq_error_iff.2 (Or.inl ⟨reader, ?_⟩)
    rw [hrest, Reader.feed_append_of_fault hbad]
  shorter := by
    intro fewer hfewer
    rw [List.take_append_of_le_length (Nat.lt_succ_iff.1 hfewer)]
    obtain ⟨rest, hrest⟩ :=
      exists_numbered_append skipBlank (before.take fewer) (before.drop fewer)
    rw [List.take_append_drop] at hrest
    rw [hrest] at htaken
    obtain ⟨middle, hmiddle⟩ := Reader.feed_prefix htaken
    exact parse_of_taken hmiddle

/-- A name that is turned down at a terminator is defined again by the block that ends there. -/
theorem definedAgain_of_repeats {definition : OpenDefinition}
    (htaken : Reader.start.feed (numbered skipBlank before) = (reader, none))
    (hread : numbered skipBlank (before ++ [line]) =
      numbered skipBlank before ++ [(line, before.length + 1)])
    (hrepeats : reader.Repeats line definition fault) :
    definition.line < before.length + 1 ∧
      DefinedAgain (numbered skipBlank (before ++ [line])) definition.name definition.line
        (before.length + 1) := by
  obtain ⟨blocks, opening, hdivided, rfl⟩ := Reader.exists_divided htaken
  obtain ⟨opened, rfl, rfl⟩ := Option.map_eq_some_iff.1 hrepeats.current
  have hlines : numbered skipBlank before =
      blocks.flatMap Block.lines ++ opened.header :: opened.body := hdivided.lines_eq
  constructor
  · -- the header is one of the lines before the terminator
    have hmem : opened.header ∈ numbered skipBlank before := by
      rw [hlines]
      exact List.mem_append_right _ List.mem_cons_self
    obtain ⟨-, hle, -⟩ := getElem?_of_mem_numbered hmem
    exact Nat.lt_succ_of_le hle
  · have hfirst : ∃ first ∈ blocks, first.name = opened.name := by
      have hold := hrepeats.old
      rw [Reader.holding, names_functions] at hold
      exact List.mem_map.1 hold
    have hsecond : numbered skipBlank (before ++ [line]) = blocks.flatMap Block.lines ++
        Block.lines ⟨opened, (line, before.length + 1), hrepeats.words⟩ := by
      rw [hread, hlines]
      simp [Block.lines]
    exact .intro hsecond hdivided.nodup hfirst rfl rfl rfl

end Rejected

/-- A program is refused for the first line that cannot follow the lines before it, whatever comes
behind that line, and the fault names it. A name that is defined twice is refused at the line which
ends its second definition, and the fault names the header of that definition. Otherwise all lines
are right and the last header lacks its terminator; this fault names no line. -/
theorem first_bad_line_decides {fault : Fault} (h : parse skipBlank lines = .error fault) :
    ((∀ name, fault.cause ≠ .unterminatedDefinition name) →
      ∃ count, DecidedBy skipBlank lines fault count ∧
        ((∀ name, fault.cause ≠ .duplicateFunction name) → fault.line = some (count : Int)) ∧
        ∀ name, fault.cause = .duplicateFunction name →
          ∃ header : Nat, fault.line = some (header : Int) ∧ header < count ∧
            DefinedAgain (numbered skipBlank (lines.take count)) name header count) ∧
    ∀ name, fault.cause = .unterminatedDefinition name →
      fault.line = none ∧ LeftOpen (numbered skipBlank lines) name := by
  rcases parse_eq_error_iff.1 h with ⟨reader, hstopped⟩ | ⟨functions, definition, htaken, rfl⟩
  · obtain ⟨before, line, after, rfl, htaken, hread, hstep⟩ := exists_rejected hstopped
    constructor
    · intro _
      refine ⟨before.length + 1, decidedBy_of_rejected htaken hread hstep, ?_⟩
      rcases hstep.fault_cases with ⟨hline, hcause⟩ | ⟨definition, hrepeats⟩
      · exact ⟨fun _ => hline, fun name hname => absurd hname (hcause name)⟩
      · obtain rfl := hrepeats.fault_eq
        refine ⟨fun hcause => absurd rfl (hcause definition.name), ?_⟩
        rintro name hname
        obtain rfl := Cause.duplicateFunction.inj hname
        obtain ⟨hlt, hagain⟩ := definedAgain_of_repeats htaken hread hrepeats
        have htake : (before ++ line :: after).take (before.length + 1) = before ++ [line] :=
          List.take_length_add_append 1
        exact ⟨definition.line, rfl, hlt, htake ▸ hagain⟩
    · intro name hname
      exact absurd hname (hstep.cause_ne_unterminated name)
  · refine ⟨fun hcause => absurd rfl (hcause definition.name), ?_⟩
    intro name hname
    obtain rfl := Cause.unterminatedDefinition.inj hname
    refine ⟨rfl, ?_⟩
    obtain ⟨blocks, opening, hdivided, hreader⟩ := Reader.exists_divided htaken
    obtain ⟨opened, rfl, rfl⟩ := Option.map_eq_some_iff.1 (Reader.mk.inj hreader).2.symm
    exact hdivided.leftOpen

/-- A function that is defined twice, with a blank line between the definitions and a line behind
them that is no better. -/
def definedTwice : List String :=
  ["- f", "---", "", "- f", "call f", "---", "stray"]

/-- The second definition is refused, at its header, whatever follows its terminator. -/
theorem first_bad_line_decides_defined_twice :
    parse true definedTwice = .error (.onLine (.duplicateFunction "f") 4) ∧
      ∃ count, DecidedBy true definedTwice (.onLine (.duplicateFunction "f") 4) count ∧ 4 < count ∧
        DefinedAgain (numbered true (definedTwice.take count)) "f" 4 count := by
  have hparse : parse true definedTwice = .error (.onLine (.duplicateFunction "f") 4) := rfl
  obtain ⟨hdecides, -⟩ := first_bad_line_decides hparse
  obtain ⟨count, hdecided, -, hagain⟩ := hdecides nofun
  obtain ⟨header, hline, hlt, hheader⟩ := hagain "f" rfl
  obtain rfl : header = 4 := by
    have hcast := Option.some.inj hline
    omega
  exact ⟨hparse, count, hdecided, hlt, hheader⟩

end Program

end Dataflow
