import Mathlib.Data.List.Forall2
import Dataflow.Proofs.Renaming
import Dataflow.Proofs.Reprinting

/-!
# Layout

Blanks only part the words of a line. Every line has the words of one in which they stand with single
spaces between them (`Text.words_singleSpaced`), so two texts with the same words in their lines have
one print in common, and what is read from the one is what is read from the other but for the text of
the lines. In a run the text of a line is only recorded, never looked at: single-spacing the
statements of a program is a renaming that leaves all names alone (`Setup.run_of_reprint_eq`).

Main statement: `layout_makes_no_difference`.
-/

set_option autoImplicit false

namespace Dataflow

/-! ## Single spaces -/

namespace Text

/-- The words of a text with single spaces between them. -/
def singleSpaced (text : String) : String := " ".intercalate (words text)

/-- Characters that are no blanks belong to the word that is being read. -/
theorem wordsFrom_append {piece : List Char} (hpiece : ∀ c ∈ piece, isBlank c = false)
    (word rest : List Char) :
    wordsFrom word (piece ++ rest) = wordsFrom (piece.reverse ++ word) rest := by
  induction piece generalizing word with
  | nil => rfl
  | cons c piece ih =>
    have hc : isBlank c = false := hpiece c List.mem_cons_self
    rw [List.cons_append, wordsFrom, hc, if_neg Bool.false_ne_true,
      ih fun d hd => hpiece d (List.mem_cons_of_mem c hd)]
    simp

/-- A word is read as itself when the text ends behind it. -/
theorem wordsFrom_of_isWord {piece : List Char} (h : IsWord piece) :
    wordsFrom [] piece = [piece] := by
  have hread := wordsFrom_append h.2 [] []
  rw [List.append_nil, List.append_nil] at hread
  rw [hread, wordsFrom]
  simp [h.1]

/-- A word is read as itself when a space follows it. -/
theorem wordsFrom_append_space {piece : List Char} (h : IsWord piece) (rest : List Char) :
    wordsFrom [] (piece ++ ' ' :: rest) = piece :: wordsFrom [] rest := by
  have hspace : isBlank ' ' = true := by decide
  rw [wordsFrom_append h.2, List.append_nil, wordsFrom, hspace, if_pos rfl]
  simp [h.1]

/-- Words with single spaces between them are read as these words. -/
theorem words_intercalate {pieces : List String} (h : ∀ piece ∈ pieces, IsWord piece.toList) :
    words (" ".intercalate pieces) = pieces := by
  have hread : wordsFrom [] (" ".intercalate pieces).toList = pieces.map String.toList := by
    induction pieces with
    | nil => rfl
    | cons piece rest ih =>
      have hpiece := h piece List.mem_cons_self
      -- a space ends each word but the last, which the end of the text ends
      cases rest with
      | nil =>
        rw [String.intercalate_singleton]
        exact wordsFrom_of_isWord hpiece
      | cons next rest =>
        have hrest := ih fun other hother => h other (List.mem_cons_of_mem piece hother)
        rw [String.intercalate_cons_cons, String.toList_append, String.toList_append,
          List.append_assoc, List.map_cons, ← hrest]
        exact wordsFrom_append_space hpiece _
  rw [words, hread, List.map_map]
  simp [Function.comp_def]

theorem words_singleSpaced (text : String) : words (singleSpaced text) = words text :=
  words_intercalate fun _ hword => isWord_of_mem_words hword

end Text

/-- All lines with single spaces between their words, under the same numbers. -/
def Reprint.singleSpaced : Reprint where
  text := Text.singleSpaced
  number := id
  words_text := Text.words_singleSpaced

theorem Reprint.place_singleSpaced (line : Int) : singleSpaced.place line = line := by
  cases line <;> rfl

/-! ## Programs with the same words -/

namespace Program

variable (skipBlank : Bool)

/-- Single-spaced lines are skipped or read as the lines themselves. -/
theorem numbered_singleSpaced (lines : List String) :
    numbered skipBlank (lines.map Text.singleSpaced) =
      (numbered skipBlank lines).map Reprint.singleSpaced.line := by
  rw [numbered, numbered, List.zipIdx_map, List.filter_map]
  refine congrArg (List.map _) (List.filter_congr fun line _ => ?_)
  simp [Text.words_singleSpaced]

/-- Lines with the same words are read alike but for their texts. -/
theorem parse_of_same_words {lines others : List String}
    (h : List.Forall₂ (fun line other => Text.words line = Text.words other) lines others) :
    Reprint.singleSpaced.result (Program.reprint .singleSpaced) (parse skipBlank lines) =
      Reprint.singleSpaced.result (Program.reprint .singleSpaced) (parse skipBlank others) := by
  -- both are read as the print that they have in common
  have hprint : lines.map Text.singleSpaced = others.map Text.singleSpaced := by
    rw [← List.forall₂_eq_eq_eq, List.forall₂_map_left_iff, List.forall₂_map_right_iff]
    exact h.imp fun _ _ hwords => congrArg (" ".intercalate ·) hwords
  rw [← parse_reprint .singleSpaced (numbered_singleSpaced skipBlank lines), hprint]
  exact parse_reprint .singleSpaced (numbered_singleSpaced skipBlank others)

end Program

/-! ## Runs -/

/-- What was recorded, with the statements reprinted. -/
def Event.reprint (r : Reprint) : Event → Event
  | .executed statement => .executed (statement.reprint r)
  | event => event

/-- Nothing but the journal refers to lines. -/
def State.reprint (r : Reprint) (state : State) : State :=
  { state with journal := state.journal.map (Event.reprint r) }

/-- The failure stays as it is. -/
def Outcome.reprint (r : Reprint) (outcome : Outcome) : Outcome :=
  ⟨outcome.state.reprint r, outcome.failure⟩

/-- All names and types stay as they are, and the lines are single-spaced. -/
def Renaming.singleSpaced : Renaming where
  variableName := id
  functionName := id
  typeWord := id
  text := fun statement => Text.singleSpaced statement.source
  variableName_injective := Function.injective_id
  functionName_injective := Function.injective_id
  functionName_entry := rfl
  functionName_intrinsic := fun _ => rfl

theorem Instruction.rename_singleSpaced (instruction : Instruction) :
    instruction.rename .singleSpaced = instruction := by
  cases instruction <;> rfl

theorem Statement.rename_singleSpaced (statement : Statement) :
    statement.rename .singleSpaced = statement.reprint .singleSpaced := by
  rw [rename, reprint, Instruction.rename_singleSpaced, Reprint.place_singleSpaced]
  rfl

theorem PendingCall.rename_singleSpaced (call : PendingCall) :
    call.rename .singleSpaced = call :=
  congrArg (PendingCall.mk call.function) (List.map_id call.bindings)

theorem Event.rename_singleSpaced (event : Event) :
    event.rename .singleSpaced = event.reprint .singleSpaced := by
  cases event with
  | catalogued names => exact congrArg Event.catalogued (List.map_id names)
  | executed statement => exact congrArg Event.executed statement.rename_singleSpaced
  | enqueued call length => exact congrArg (Event.enqueued · length) call.rename_singleSpaced
  | skipped call => exact congrArg Event.skipped call.rename_singleSpaced
  | dispatched number call => exact congrArg (Event.dispatched number) call.rename_singleSpaced
  | intrinsic call => exact congrArg Event.intrinsic call.rename_singleSpaced
  | registered _ _ | moved _ _ | entered _ | wrote _ _ _ | finished _ => rfl

theorem State.rename_singleSpaced (state : State) :
    state.rename .singleSpaced = state.reprint .singleSpaced := by
  have hstore : state.store.rename .singleSpaced = state.store :=
    congrArg Store.mk (List.map_id state.store.entries)
  have hqueue : state.queue.map (PendingCall.rename .singleSpaced) = state.queue :=
    List.map_id'' PendingCall.rename_singleSpaced state.queue
  have hbindings : state.bindings.map (Binding.rename .singleSpaced) = state.bindings :=
    List.map_id state.bindings
  rw [rename, reprint, hstore, hqueue, hbindings, funext Event.rename_singleSpaced]

theorem Failure.rename_singleSpaced (failure : Failure) :
    failure.rename .singleSpaced = failure := by
  cases failure with
  | fault fault =>
    obtain ⟨cause, line⟩ := fault
    cases cause <;> rfl
  | refusal refusal => rfl
  | unwritableLimit limit => rfl
  | alreadyRan phase => rfl

theorem Outcome.rename_singleSpaced (outcome : Outcome) :
    outcome.rename .singleSpaced = outcome.reprint .singleSpaced := by
  rw [rename, reprint, State.rename_singleSpaced, funext Failure.rename_singleSpaced]
  exact congrArg (Outcome.mk _) (congrFun Option.map_id_fun' outcome.failure)

/-- The single-spaced function, whose source lines are those of its statements. -/
theorem Function.rename_singleSpaced (f : Function) :
    f.rename .singleSpaced = { f.reprint .singleSpaced with
      lines := (f.reprint .singleSpaced).body.map Statement.source } := by
  rw [rename, reprint, funext Statement.rename_singleSpaced, List.map_map]
  rfl

/-- Programs that differ only in the text of their lines run alike. -/
theorem Setup.run_of_reprint_eq {program program' : Program}
    (h : program.reprint .singleSpaced = program'.reprint .singleSpaced) (limit : Int)
    (listener : Option Listener) (steps : Nat) (state : State) :
    (run ⟨program, limit, listener⟩ steps state).map (Outcome.reprint .singleSpaced) =
      (run ⟨program', limit, listener⟩ steps state).map (Outcome.reprint .singleSpaced) := by
  -- the renamed program can be told from the print alone
  have hprogram : ∀ program : Program, program.rename .singleSpaced =
      ⟨(program.reprint .singleSpaced).functions.map fun f =>
        { f with lines := f.body.map Statement.source }⟩ := by
    intro program
    rw [Program.rename, Program.reprint, funext Function.rename_singleSpaced, List.map_map]
    rfl
  have hsetup : (Setup.mk program limit listener).rename .singleSpaced =
      (Setup.mk program' limit listener).rename .singleSpaced := by
    rw [Setup.rename, Setup.rename, hprogram, hprogram, h]
  rw [← funext Outcome.rename_singleSpaced, ← run_rename, ← run_rename, hsetup]

namespace Program

/-- Of two texts with the same words in their lines either both are programs or none is. If none
is, the faults differ at most in the text of a line that they quote. If both are, the programs differ
only in the text of their lines, and they run alike: after any number of steps either none has ended
or both have, with the same failure and in the same state but for the text of the lines in the
journal. -/
theorem layout_makes_no_difference (skipBlank : Bool) {lines others : List String}
    (h : List.Forall₂ (fun line other => Text.words line = Text.words other) lines others) :
    (∃ fault fault', parse skipBlank lines = .error fault ∧ parse skipBlank others = .error fault' ∧
      fault.reprint .singleSpaced = fault'.reprint .singleSpaced) ∨
    ∃ program program', parse skipBlank lines = .ok program ∧
      parse skipBlank others = .ok program' ∧
      program.reprint .singleSpaced = program'.reprint .singleSpaced ∧
      ∀ limit listener journal steps,
        (Setup.run ⟨program, limit, listener⟩ steps (.initial journal)).map
            (Outcome.reprint .singleSpaced) =
          (Setup.run ⟨program', limit, listener⟩ steps (.initial journal)).map
            (Outcome.reprint .singleSpaced) := by
  have hsame := parse_of_same_words skipBlank h
  cases hlines : parse skipBlank lines with
  | error fault =>
    cases hothers : parse skipBlank others with
    | error fault' =>
      rw [hlines, hothers] at hsame
      exact Or.inl ⟨fault, fault', rfl, rfl, Except.error.inj hsame⟩
    | ok program' =>
      rw [hlines, hothers] at hsame
      cases hsame
  | ok program =>
    cases hothers : parse skipBlank others with
    | error fault' =>
      rw [hlines, hothers] at hsame
      cases hsame
    | ok program' =>
      rw [hlines, hothers] at hsame
      have hreprint := Except.ok.inj hsame
      refine Or.inr ⟨program, program', rfl, rfl, hreprint, ?_⟩
      intro limit listener journal steps
      exact Setup.run_of_reprint_eq hreprint limit listener steps (.initial journal)

/-- An entry function with single spaces. -/
def compact : List String := ["- _entry", "copy a b", "---"]

/-- The same words with other blanks, some of them in front and behind. -/
def spread : List String := ["-\t_entry ", " copy\u3000a  b", "---\r"]

/-- Both fail on the second line for want of the variable. -/
theorem layout_makes_no_difference_spread :
    ∃ program program', parse false compact = .ok program ∧ parse false spread = .ok program' ∧
      program ≠ program' ∧ program.reprint .singleSpaced = program'.reprint .singleSpaced ∧
      ∃ outcome outcome', Setup.run ⟨program, 0, none⟩ 0 (.initial #[]) = some outcome ∧
        Setup.run ⟨program', 0, none⟩ 0 (.initial #[]) = some outcome' ∧
        outcome.failure = some (.fault ⟨.unknownVariable "b", some 2⟩) ∧
        outcome.reprint .singleSpaced = outcome'.reprint .singleSpaced := by
  have hwords : List.Forall₂ (fun line other => Text.words line = Text.words other)
      compact spread :=
    .cons (by decide +kernel) (.cons (by decide +kernel) (.cons (by decide +kernel) .nil))
  have hcompact : parse false compact =
      .ok ⟨[⟨"_entry", ["copy a b"], [⟨.copy "a" "b", "copy a b", 2⟩], 1⟩]⟩ := rfl
  rcases layout_makes_no_difference false hwords with
    ⟨fault, fault', hfault, -⟩ | ⟨program, program', hprogram, hprogram', hreprint, hruns⟩
  · rw [hcompact] at hfault
    cases hfault
  · obtain rfl := Except.ok.inj (hcompact.symm.trans hprogram)
    obtain ⟨outcome, hrun, hfailure⟩ : ∃ outcome,
        Setup.run ⟨⟨[⟨"_entry", ["copy a b"], [⟨.copy "a" "b", "copy a b", 2⟩], 1⟩]⟩, 0, none⟩ 0
          (.initial #[]) = some outcome ∧
        outcome.failure = some (.fault ⟨.unknownVariable "b", some 2⟩) := ⟨_, rfl, rfl⟩
    have hruns' := hruns 0 none #[] 0
    rw [hrun, Option.map_some, eq_comm, Option.map_eq_some_iff] at hruns'
    obtain ⟨outcome', hrun', hsame⟩ := hruns'
    refine ⟨_, program', hcompact, hprogram', ?_, hreprint, outcome, outcome', hrun, hrun', hfailure,
      hsame.symm⟩
    rintro rfl
    exact absurd hprogram' (by decide +kernel)

end Program

end Dataflow
