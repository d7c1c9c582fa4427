import Dataflow.Proofs.WellFormed

/-!
# Telling calls apart by their texts

The text of a call separates its parts by spaces, parentheses and commas, of which names may hold
all but the space. A text is therefore read from one space to the next: the word in front of a space
ends in the direction of a binding, and the word behind it in the comma or the parenthesis that
closes the binding (`PendingCall.toList_describe`).

Calls whose names hold no space are therefore told apart by their texts
(`PendingCall.describe_inj`), as are those of parsed programs (`PendingCall.WellFormed.unspaced`).

Main statement: `texts_identify_calls`, for names without any blank.
-/

set_option autoImplicit false

namespace Dataflow

/-! ## Texts without a space -/

/-- A text holds no space. -/
def Unspaced (text : String) : Prop := ' ' ∉ text.toList

instance (text : String) : Decidable (Unspaced text) :=
  inferInstanceAs (Decidable (' ' ∉ text.toList))

/-- A space is a blank. -/
theorem unspaced_of_not_blank {text : String} (h : ∀ c ∈ text.toList, Text.isBlank c = false) :
    Unspaced text := by
  intro hspace
  have hblank := h ' ' hspace
  cases hblank

/-- A token holds no blank at all. -/
theorem IsToken.unspaced {text : String} (h : IsToken text) : Unspaced text :=
  unspaced_of_not_blank h.2

theorem Direction.unspaced_word (direction : Direction) : Unspaced direction.word :=
  direction.isToken_word.unspaced

theorem Unspaced.concat {text : String} (h : Unspaced text) {c : Char} (hc : ' ' ≠ c) :
    ' ' ∉ text.toList ++ [c] := by
  rw [List.mem_append, List.mem_singleton, not_or]
  exact ⟨h, hc⟩

/-- What stands in front of the first mark, and what behind it, is determined by the whole. -/
theorem append_mark_inj {mark : Char} {left right first second : List Char} (hleft : mark ∉ left)
    (hright : mark ∉ right) (h : left ++ mark :: first = right ++ mark :: second) :
    left = right ∧ first = second := by
  induction left generalizing right with
  | nil =>
    cases right with
    | nil => exact ⟨rfl, (List.cons.inj h).2⟩
    | cons c right =>
      obtain ⟨rfl, -⟩ := List.cons.inj h
      exact absurd List.mem_cons_self hright
  | cons c left ih =>
    cases right with
    | nil =>
      obtain ⟨rfl, -⟩ := List.cons.inj h
      exact absurd List.mem_cons_self hleft
    | cons d right =>
      obtain ⟨rfl, hrest⟩ := List.cons.inj h
      obtain ⟨rfl, rfl⟩ := ih (fun hmem => hleft (List.mem_cons_of_mem c hmem))
        (fun hmem => hright (List.mem_cons_of_mem c hmem)) hrest
      exact ⟨rfl, rfl⟩

/-! ## The text of a call -/

attribute [ext] Binding

/-- The characters of a binding, followed by others. -/
def Binding.before (b : Binding) (rest : List Char) : List Char :=
  b.direction.word.toList ++ ' ' :: (b.name.toList ++ rest)

/-- What follows the name of a binding in the text of a call: the bindings behind it and the end. -/
def closingText : List Binding → List Char
  | [] => [')']
  | b :: rest => ',' :: ' ' :: b.before (closingText rest)

/-- What follows the function in the text of a call. -/
def argumentsText : List Binding → List Char
  | [] => ['(', ')']
  | b :: rest => '(' :: b.before (closingText rest)

theorem Binding.toList_describe_append (b : Binding) (rest : List Char) :
    b.describe.toList ++ rest = b.before rest := by
  simp [describe, before]

theorem toList_intercalate_append (b : Binding) (rest : List Binding) :
    (", ".intercalate ((b :: rest).map Binding.describe)).toList ++ [')'] =
      b.before (closingText rest) := by
  induction rest generalizing b with
  | nil => simpa [closingText] using b.toList_describe_append [')']
  | cons next rest ih =>
    have hnext := ih next
    rw [List.map_cons] at hnext
    rw [List.map_cons, List.map_cons, String.intercalate_cons_cons, String.toList_append,
      String.toList_append, List.append_assoc, List.append_assoc, hnext, b.toList_describe_append]
    rfl

/-- The text of a call by its characters. -/
theorem PendingCall.toList_describe (call : PendingCall) :
    call.describe.toList = call.function.toList ++ argumentsText call.bindings := by
  cases hbindings : call.bindings with
  | nil => simp [describe, hbindings, argumentsText]
  | cons b rest =>
    have hrest := toList_intercalate_append b rest
    simp only [describe, hbindings, String.toList_append, List.append_assoc, argumentsText]
    exact congrArg (call.function.toList ++ '(' :: ·) hrest

/-! ## Reading a text back -/

/-- The words of the two directions end in different letters. -/
theorem Direction.append_word_inj {left right : List Char} {first second : Direction}
    (h : left ++ first.word.toList = right ++ second.word.toList) :
    left = right ∧ first = second := by
  have hlast := congrArg List.getLast? h
  cases first with
  | input =>
    cases second with
    | input => exact ⟨List.append_cancel_right h, rfl⟩
    | output => simp [word] at hlast
  | output =>
    cases second with
    | input => simp [word] at hlast
    | output => exact ⟨List.append_cancel_right h, rfl⟩

/-- Only bindings bring a space into the text of a call. -/
theorem space_mem_closing_iff (bindings : List Binding) :
    ' ' ∈ closingText bindings ↔ bindings ≠ [] := by
  cases bindings with
  | nil => simp [closingText]
  | cons b rest => simp [closingText]

theorem space_mem_arguments_iff (bindings : List Binding) :
    ' ' ∈ argumentsText bindings ↔ bindings ≠ [] := by
  cases bindings with
  | nil => simp [argumentsText]
  | cons b rest => simp [argumentsText, Binding.before]

/-- Texts that agree have a space both or neither. -/
theorem space_mem_iff {left right first second : List Char} (hleft : ' ' ∉ left)
    (hright : ' ' ∉ right) (h : left ++ first = right ++ second) : ' ' ∈ first ↔ ' ' ∈ second := by
  have hmem : ' ' ∈ left ++ first ↔ ' ' ∈ right ++ second := by rw [h]
  simpa [hleft, hright] using hmem

/-- A direction behind unspaced characters can be read back, and what follows its space. -/
theorem append_before_inj {left right : List Char} {b c : Binding} {bindings others : List Binding}
    (hleft : ' ' ∉ left) (hright : ' ' ∉ right)
    (h : left ++ b.before (closingText bindings) = right ++ c.before (closingText others)) :
    left = right ∧ b.direction = c.direction ∧
      b.name.toList ++ closingText bindings = c.name.toList ++ closingText others := by
  have hfirst : ' ' ∉ left ++ b.direction.word.toList := by
    rw [List.mem_append, not_or]
    exact ⟨hleft, b.direction.unspaced_word⟩
  have hsecond : ' ' ∉ right ++ c.direction.word.toList := by
    rw [List.mem_append, not_or]
    exact ⟨hright, c.direction.unspaced_word⟩
  rw [Binding.before, Binding.before, ← List.append_assoc, ← List.append_assoc] at h
  obtain ⟨hword, hrest⟩ := append_mark_inj hfirst hsecond h
  obtain ⟨rfl, hdirection⟩ := Direction.append_word_inj hword
  exact ⟨rfl, hdirection, hrest⟩

/-- A name is followed by further bindings in both of two texts that agree, or in neither. -/
theorem ne_nil_iff_of_append_closing {b c : Binding} {bindings others : List Binding}
    (hb : Unspaced b.name) (hc : Unspaced c.name)
    (h : b.name.toList ++ closingText bindings = c.name.toList ++ closingText others) :
    bindings ≠ [] ↔ others ≠ [] := by
  rw [← space_mem_closing_iff, ← space_mem_closing_iff]
  exact space_mem_iff hb hc h

/-- Bindings behind unspaced characters can be read back to the end of the call. -/
theorem append_bindings_inj {left right : List Char} {b c : Binding}
    {bindings others : List Binding} (hleft : ' ' ∉ left) (hright : ' ' ∉ right)
    (hbindings : ∀ d ∈ b :: bindings, Unspaced d.name)
    (hothers : ∀ d ∈ c :: others, Unspaced d.name)
    (h : left ++ b.before (closingText bindings) = right ++ c.before (closingText others)) :
    left = right ∧ b :: bindings = c :: others := by
  induction bindings generalizing left right b c others with
  | nil =>
    obtain ⟨rfl, hdirection, hnames⟩ := append_before_inj hleft hright h
    have hmore := ne_nil_iff_of_append_closing (hbindings b List.mem_cons_self)
      (hothers c List.mem_cons_self) hnames
    obtain rfl : others = [] := by simpa using hmore
    have hname : b.name = c.name := String.toList_inj.1 (List.append_cancel_right hnames)
    exact ⟨rfl, congrArg (· :: []) (Binding.ext hname hdirection)⟩
  | cons next bindings ih =>
    obtain ⟨rfl, hdirection, hnames⟩ := append_before_inj hleft hright h
    obtain ⟨hb, hbindings⟩ := List.forall_mem_cons.1 hbindings
    obtain ⟨hc, hothers⟩ := List.forall_mem_cons.1 hothers
    have hmore := ne_nil_iff_of_append_closing hb hc hnames
    obtain ⟨other, others, rfl⟩ := List.exists_cons_of_ne_nil (hmore.1 (List.cons_ne_nil _ _))
    -- the comma belongs to the word in front of the next space
    rw [closingText, closingText, List.append_cons b.name.toList,
      List.append_cons c.name.toList] at hnames
    obtain ⟨hcomma, hrest⟩ :=
      append_mark_inj (hb.concat (by decide)) (hc.concat (by decide)) hnames
    obtain ⟨-, hbehind⟩ :=
      @ih [] [] _ _ _ List.not_mem_nil List.not_mem_nil hbindings hothers hrest
    have hname : b.name = c.name := String.toList_inj.1 (List.append_cancel_right hcomma)
    rw [Binding.ext hname hdirection, hbehind]
    exact ⟨rfl, rfl⟩

/-! ## Calls -/

/-- The names in a call hold no space. -/
structure PendingCall.Unspaced (call : PendingCall) : Prop where
  function : Dataflow.Unspaced call.function
  bindings : ∀ b ∈ call.bindings, Dataflow.Unspaced b.name

theorem PendingCall.WellFormed.unspaced {call : PendingCall} (h : call.WellFormed) :
    call.Unspaced where
  function := h.function.unspaced
  bindings := fun b hb => (h.bindings b hb).unspaced

/-- Calls whose names hold no space are told apart by their texts. -/
theorem PendingCall.describe_inj {first second : PendingCall} (hfirst : first.Unspaced)
    (hsecond : second.Unspaced) (h : first.describe = second.describe) : first = second := by
  have htext := congrArg String.toList h
  rw [toList_describe, toList_describe] at htext
  obtain ⟨function, bindings⟩ := first
  obtain ⟨other, others⟩ := second
  have hspace := space_mem_iff hfirst.function hsecond.function htext
  rw [space_mem_arguments_iff, space_mem_arguments_iff] at hspace
  cases bindings with
  | nil =>
    obtain rfl : others = [] := by simpa using hspace
    have hfunction : function = other := String.toList_inj.1 (List.append_cancel_right htext)
    rw [hfunction]
  | cons b bindings =>
    obtain ⟨c, others, rfl⟩ := List.exists_cons_of_ne_nil (hspace.1 (List.cons_ne_nil _ _))
    rw [argumentsText, argumentsText, List.append_cons function.toList,
      List.append_cons other.toList] at htext
    obtain ⟨hopened, hbindings⟩ := append_bindings_inj (hfirst.function.concat (by decide))
      (hsecond.function.concat (by decide)) hfirst.bindings hsecond.bindings htext
    have hfunction : function = other := String.toList_inj.1 (List.append_cancel_right hopened)
    rw [hfunction, hbindings]

namespace PendingCall

/-- The names in a call hold no blank; they may be empty. -/
structure Blankless (call : PendingCall) : Prop where
  function : ∀ c ∈ call.function.toList, Text.isBlank c = false
  bindings : ∀ b ∈ call.bindings, ∀ c ∈ b.name.toList, Text.isBlank c = false

theorem Blankless.unspaced {call : PendingCall} (h : call.Blankless) : call.Unspaced where
  function := unspaced_of_not_blank h.function
  bindings := fun b hb => unspaced_of_not_blank (h.bindings b hb)

/-- Tokens hold no blank. -/
theorem WellFormed.blankless {call : PendingCall} (h : call.WellFormed) : call.Blankless where
  function := h.function.2
  bindings := fun b hb => (h.bindings b hb).2

/-- Calls whose names hold no blank have the same text only if they are the same call. All calls are
of this kind that a parsed program puts into its queue. -/
theorem texts_identify_calls :
    (∀ first second : PendingCall, first.Blankless → second.Blankless →
      (first.describe = second.describe ↔ first = second)) ∧
    ∀ (setup : Setup) (journal : Array Event) (skipBlank : Bool) (lines : List String),
      Program.parse skipBlank lines = .ok setup.program →
      ∀ state, setup.Passes journal state → ∀ call ∈ state.queue, call.Blankless := by
  constructor
  · intro first second hfirst hsecond
    constructor
    · intro htext
      exact describe_inj hfirst.unspaced hsecond.unspaced htext
    · rintro rfl
      rfl
  · intro setup journal skipBlank lines hparse state hstate call hcall
    have hwellFormed := hstate.wellFormed (Program.wellFormed_of_parse hparse)
    exact (hwellFormed.queue call hcall).blankless

/-- The lines of a program that calls a function with names made of the marks of a call's text. -/
def markedNames : List String := ["- _entry", "bind in a),", "bind out out", "call f(in", "---"]

/-- The call is told apart from one whose first name lacks the comma. -/
theorem texts_identify_calls_marked_names :
    ∃ setup : Setup, Program.parse false markedNames = .ok setup.program ∧
      ∃ call, (setup.start (.initial #[])).state.queue = [call] ∧ call.Blankless ∧
        call.describe = "f(in(in a),, out out)" ∧
        call.describe ≠ describe ⟨"f(in", [⟨"a)", .input⟩, ⟨"out", .output⟩]⟩ := by
  obtain ⟨hidentify, hqueue⟩ := texts_identify_calls
  obtain ⟨setup, hparse, call, hstart, hcall⟩ :
      ∃ setup : Setup, Program.parse false markedNames = .ok setup.program ∧
        ∃ call, (setup.start (.initial #[])).state.queue = [call] ∧
          call = ⟨"f(in", [⟨"a),", .input⟩, ⟨"out", .output⟩]⟩ :=
    ⟨⟨_, 0, none⟩, rfl, _, rfl, rfl⟩
  have hblankless : call.Blankless := by
    apply hqueue setup #[] false markedNames hparse _ (.scheduled 0)
    exact hstart ▸ List.mem_singleton_self call
  refine ⟨setup, hparse, call, hstart, hblankless, by rw [hcall]; decide, ?_⟩
  rw [hcall] at hblankless ⊢
  have hother : Blankless ⟨"f(in", [⟨"a)", .input⟩, ⟨"out", .output⟩]⟩ :=
    ⟨hblankless.function, by simp [Text.isBlank]⟩
  rw [ne_eq, hidentify _ _ hblankless hother]
  decide

/-- A name with a space can look like two bindings. -/
example : describe ⟨"f", [⟨"a, in b", .input⟩]⟩ = describe ⟨"f", [⟨"a", .input⟩, ⟨"b", .input⟩]⟩ := by
  decide

end PendingCall

end Dataflow
