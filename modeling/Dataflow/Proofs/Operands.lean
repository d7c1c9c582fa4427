import Dataflow.Proofs.Addition
import Dataflow.Proofs.NumeralGrammar

/-!
# Operands

What counts as an integer when it is added: integers of any size as they are, and texts that are
numerals. An operand that is no numeral is reported with its name and its value. The text that an
integer is written as can take the place of the integer, as long as it is no longer than a numeral
may be (`State.runAdd_holding`); the sums themselves are not bounded in this way.

Main statement: `operands_are_numerals`.
-/

set_option autoImplicit false

namespace Dataflow

/-! ## Values that take the place of others -/

namespace Store

/-- The store in which a variable holds a given value, and is as it was in all else. -/
def holding (store : Store) (name : String) (value : Value) : Store :=
  store.modify name fun v => { v with value }

variable {store : Store} {name : String} {first second : Value} {n : Int}

theorem find?_holding (store : Store) (name other : String) (value : Value) :
    (store.holding name value).find? other =
      if other = name then (store.find? other).map fun v => { v with value }
      else store.find? other :=
  find?_modify store name other fun _ => rfl

theorem names_holding (store : Store) (name : String) (value : Value) :
    (store.holding name value).names = store.names :=
  names_modify store name fun _ => rfl

/-- Values that count as the same integer count alike in every addition. -/
theorem countsAlike_holding (hfirst : first.toInt? = some n) (hsecond : second.toInt? = some n) :
    (store.holding name first).CountsAlike (store.holding name second) where
  names := by rw [names_holding, names_holding]
  summand := by
    rintro other m ⟨v, hfind, hv⟩
    rw [find?_holding] at hfind
    by_cases hother : other = name
    · rw [if_pos hother] at hfind
      obtain ⟨w, hw, rfl⟩ := Option.map_eq_some_iff.1 hfind
      refine ⟨{ w with value := second }, ?_, hsecond.trans (hfirst.symm.trans hv)⟩
      rw [find?_holding, if_pos hother, hw]
      rfl
    · rw [if_neg hother] at hfind
      refine ⟨v, ?_, hv⟩
      rw [find?_holding, if_neg hother, hfind]
  unfit := by
    intro other cause h
    cases h with
    | missing hfind =>
      rw [find?_holding] at hfind
      apply Unfit.missing
      rw [find?_holding]
      by_cases hother : other = name
      · rw [if_pos hother, Option.map_eq_none_iff] at hfind
        rw [if_pos hother, hfind, Option.map_none]
      · rw [if_neg hother] at hfind
        rw [if_neg hother, hfind]
    | nonInteger hfind hvalue =>
      rw [find?_holding] at hfind
      by_cases hother : other = name
      · -- the variable itself holds an integer
        rw [if_pos hother] at hfind
        obtain ⟨w, hw, rfl⟩ := Option.map_eq_some_iff.1 hfind
        cases hfirst.symm.trans hvalue
      · rw [if_neg hother] at hfind
        refine .nonInteger ?_ hvalue
        rw [find?_holding, if_neg hother, hfind]

/-- What a variable held does not show once it was given another value. -/
theorem modify_holding {change : Variable → Variable} (value : Value)
    (hchange : ∀ v : Variable, change { v with value } = change v) :
    (store.holding name value).modify name change = store.modify name change := by
  rw [holding, modify, modify, modify, List.map_map]
  congr 1
  refine List.map_congr_left fun v _ => ?_
  rw [Function.comp_apply]
  by_cases hname : v.name = name
  · simp only [if_pos hname]
    exact hchange v
  · simp only [if_neg hname]

theorem holding_holding (value : Value) :
    (store.holding name first).holding name value = store.holding name value :=
  modify_holding first fun _ => rfl

/-- A change to another variable does not touch the value. -/
theorem modify_holding_of_ne {other : String} {change : Variable → Variable} (value : Value)
    (hname : ∀ v, (change v).name = v.name) (hne : other ≠ name) :
    (store.holding name value).modify other change = (store.modify other change).holding name value := by
  rw [holding, holding, modify, modify, modify, modify, List.map_map, List.map_map]
  congr 1
  refine List.map_congr_left fun v _ => ?_
  rw [Function.comp_apply, Function.comp_apply]
  by_cases hv : v.name = name
  · simp [hv, hne.symm]
  · by_cases ho : v.name = other
    · simp [ho, hname, hne]
    · simp [hv, ho]

end Store

namespace State

/-- The state in which a variable holds a given value. -/
def holding (state : State) (name : String) (value : Value) : State :=
  { state with store := state.store.holding name value }

variable {state : State} {name : String} {first second : Value} {n : Int}

theorem holding_holding (value : Value) :
    (state.holding name first).holding name value = state.holding name value := by
  simp only [holding, Store.holding_holding]

/-- A sum that is written to a variable takes the place of what it held. -/
theorem withSum_holding (value : Value) (m : Int) :
    (state.holding name value).withSum name m = state.withSum name m := by
  have hstore : (state.store.holding name value).modify name
      (fun v => { v with value := .int m, ready := true }) = _ :=
    Store.modify_holding value fun _ => rfl
  exact congrArg (fun store => { state with store }.note (.wrote name (.int m) true)) hstore

theorem withSum_holding_of_ne {target : String} (hne : target ≠ name) (value : Value) (m : Int) :
    (state.holding name value).withSum target m = (state.withSum target m).holding name value := by
  have hstore : (state.store.holding name value).modify target
      (fun v => { v with value := .int m, ready := true }) = _ :=
    Store.modify_holding_of_ne value (fun _ => rfl) hne
  exact congrArg (fun store => { state with store }.note (.wrote target (.int m) true)) hstore

/-- Values that count as the same integer can take each other's place in an addition: it fails in the
same way or not at all, and what it leaves differs at most in the value of this variable, and not
even there if the sum was written to it. -/
theorem runAdd_holding (hfirst : first.toInt? = some n) (hsecond : second.toInt? = some n)
    (call : PendingCall) :
    let one := (state.holding name first).runAdd call
    let other := (state.holding name second).runAdd call
    other.failure = one.failure ∧
      (∀ value, other.state.holding name value = one.state.holding name value) ∧
      ∀ left right target surplus, call.bindings = left :: right :: target :: surplus →
        target.name = name → one.failure = none → other.state = one.state := by
  intro one other
  have halike : (state.holding name first).store.CountsAlike (state.holding name second).store :=
    Store.countsAlike_holding hfirst hsecond
  rcases call.addition_or_obstacle (state.holding name first).store with
    ⟨left, right, target, a, b, hadds⟩ | ⟨cause, hobstacle⟩
  · have hone : one = .done _ := runAdd_of_addition hadds
    have hother : other = .done _ := runAdd_of_addition (hadds.congr halike)
    rw [hone, hother]
    refine ⟨rfl, ?_, ?_⟩
    · intro value
      by_cases htarget : target.name = name
      · rw [htarget, withSum_holding, withSum_holding]
      · rw [withSum_holding_of_ne htarget, withSum_holding_of_ne htarget]
        exact (holding_holding value).trans (holding_holding value).symm
    · intro _ _ other _ hbindings htarget _
      obtain ⟨surplus, hadded⟩ := hadds.bindings
      rw [hadded] at hbindings
      cases hbindings
      rw [htarget, withSum_holding, withSum_holding]
  · have hone : one = .faulty (state.holding name first) cause := runAdd_of_obstacle hobstacle
    have hother : other = .faulty (state.holding name second) cause :=
      runAdd_of_obstacle (hobstacle.congr halike)
    rw [hone, hother]
    refine ⟨rfl, ?_, ?_⟩
    · intro value
      exact (holding_holding value).trans (holding_holding value).symm
    · intro _ _ _ _ _ _ hnone
      cases hnone

/-- A sum is an operand in its turn, however many digits it has. -/
theorem operand_of_addition {call : PendingCall} {left right target : Binding} {a b : Int}
    (h : call.Addition state.store left right target a b) :
    ∃ later, state.runAdd call = .done later ∧ later.store.operand target.name = .ok (a + b) := by
  obtain ⟨v, hv⟩ := (state.store.exists_find?_iff target.name).2 h.target
  have hfind : (state.withSum target.name (a + b)).store.find? target.name = _ :=
    state.store.find?_modify target.name target.name fun _ => rfl
  rw [if_pos rfl, hv, Option.map_some] at hfind
  exact ⟨_, runAdd_of_addition h, Store.operand_of_summand ⟨_, hfind, by rfl⟩⟩

end State

/-! ## Operands -/

section Operand

variable {store : Store} {name : String} {v : Variable} (hfind : store.find? name = some v)
include hfind

/-- A text is an operand just when it is a numeral. -/
theorem Store.operand_text {content : String} (hvalue : v.value = .text content) {n : Int} :
    store.operand name = .ok n ↔
      ∃ numeral : Text.Numeral, content.toList = numeral.text ∧ n = numeral.value := by
  rw [← Text.readInt_eq_some_iff, operand_eq, hfind]
  simp only [hvalue, Value.toInt?]
  cases Text.readInt content with
  | none => simp
  | some m => simp

theorem Store.operand_no_numeral {content : String} (hvalue : v.value = .text content)
    (hnone : ∀ numeral : Text.Numeral, content.toList ≠ numeral.text) :
    store.operand name = .error (.unplaced (.invalidOperand name (.text content))) := by
  have hread : Text.readInt content = none := by
    rw [Option.eq_none_iff_forall_ne_some]
    intro n hn
    obtain ⟨numeral, htext, -⟩ := Text.readInt_eq_some_iff.1 hn
    exact hnone numeral htext
  rw [← hvalue]
  exact operand_of_unfit (.nonInteger hfind (by rw [hvalue]; exact hread))

end Operand

/-- Two numbers within a bound on their digits can have a sum beyond it. -/
theorem Text.exists_sum_of_more_digits {limit : Nat} (h : 0 < limit) :
    ∃ a b : Int, digitCount a ≤ limit ∧ digitCount b ≤ limit ∧ limit < digitCount (a + b) := by
  have hcount : ∀ n : Nat, digitCount n ≤ limit ↔ n < 10 ^ limit := fun n =>
    Nat.length_toDigits_le_iff (by decide) h
  have hpos : 0 < 10 ^ limit := Nat.pow_pos (by decide)
  have hone : 1 < 10 ^ limit := Nat.one_lt_pow (Nat.ne_of_gt h) (by decide)
  have hsum : ((10 ^ limit - 1 : Nat) : Int) + (1 : Nat) = (10 ^ limit : Nat) := by omega
  refine ⟨(10 ^ limit - 1 : Nat), (1 : Nat), ?_, ?_, ?_⟩
  · rw [hcount]
    omega
  · rw [hcount]
    exact hone
  · rw [hsum, ← Nat.not_le, hcount]
    exact Nat.lt_irrefl _

/-- A text is an operand just when it is the text of a numeral, and stands for its value. Any other
text, and no value, is reported under the name of its variable. An integer of any size is an operand
as it is. So an integer of no more digits than a numeral may have and the text that it is written as
can take each other's place in every addition; and a sum, which may have more digits, is an operand
in its turn. -/
theorem operands_are_numerals :
    (∀ (store : Store) (name : String) (v : Variable), store.find? name = some v →
      (∀ content, v.value = .text content →
        (∀ n, store.operand name = .ok n ↔
          ∃ numeral : Text.Numeral, content.toList = numeral.text ∧ n = numeral.value) ∧
        ((∀ numeral : Text.Numeral, content.toList ≠ numeral.text) →
          store.operand name = .error (.unplaced (.invalidOperand name (.text content))))) ∧
      (v.value = .absent →
        store.operand name = .error (.unplaced (.invalidOperand name .absent))) ∧
      ∀ n, v.value = .int n → store.operand name = .ok n) ∧
    (∀ (n : Int), Text.digitCount n ≤ Text.digitLimit →
      ∀ (state : State) (name : String) (call : PendingCall),
        let integer := (state.holding name (.int n)).runAdd call
        let numeral := (state.holding name (.text (Text.writeInt n))).runAdd call
        numeral.failure = integer.failure ∧
        (∀ value, numeral.state.holding name value = integer.state.holding name value) ∧
        ∀ left right target surplus, call.bindings = left :: right :: target :: surplus →
          target.name = name → integer.failure = none → numeral.state = integer.state) ∧
    (∀ (state : State) (call : PendingCall) (left right target : Binding) (a b : Int),
      call.Addition state.store left right target a b →
        ∃ later, state.runAdd call = .done later ∧
          later.store.operand target.name = .ok (a + b)) ∧
    ∃ a b : Int, Text.digitCount a ≤ Text.digitLimit ∧ Text.digitCount b ≤ Text.digitLimit ∧
      Text.digitLimit < Text.digitCount (a + b) := by
  refine ⟨?_, ?_, ?_, Text.exists_sum_of_more_digits (by decide)⟩
  · intro store name v hfind
    refine ⟨?_, ?_, ?_⟩
    · intro content hvalue
      exact ⟨fun n => Store.operand_text hfind hvalue, Store.operand_no_numeral hfind hvalue⟩
    · intro hvalue
      rw [← hvalue]
      exact Store.operand_of_unfit (.nonInteger hfind (by rw [hvalue]; rfl))
    · intro n hvalue
      exact Store.operand_of_summand ⟨v, hfind, by rw [hvalue]; rfl⟩
  · intro n hn state name call
    have hinteger : (Value.int n).toInt? = some n := rfl
    have hnumeral : (Value.text (Text.writeInt n)).toInt? = some n := Text.readInt_writeInt hn
    exact State.runAdd_holding hinteger hnumeral call
  · intro state call left right target a b hadds
    exact State.operand_of_addition hadds

/-- A numeral with margins, a sign, two groups, and digits of two scripts. -/
def Text.Numeral.thirteen : Text.Numeral where
  before := ['\t']
  sign := .plus
  groups := [['1'], ['٣']]
  digits := [1, 3]
  after := [' ']
  before_margin := List.forall_mem_singleton.2 rfl
  grouped := by
    have hone : Text.IsDigit '1' 1 := ⟨by decide, 0x30, by decide, rfl⟩
    have hthree : Text.IsDigit '٣' 3 := ⟨by decide, 0x660, by decide, rfl⟩
    exact .apart hone (.single hthree)
  short := by decide
  after_margin := List.forall_mem_singleton.2 rfl

/-- A state in which `x` holds this numeral, and `y` nothing. -/
def twoScripts : State :=
  { State.initial #[] with
    store := ⟨[⟨"x", "int", .text "\t+1_٣ ", true, false⟩, ⟨"y", "int", .absent, false, false⟩]⟩ }

/-- Doubles `x` in place. -/
def doubling : PendingCall := ⟨"add", [⟨"x", .input⟩, ⟨"x", .input⟩, ⟨"x", .output⟩]⟩

/-- The numeral counts as thirteen, and no value as none. A numeral for seven that is doubled in
place leaves what the integer leaves, and the sum can be added again. -/
theorem operands_are_numerals_two_scripts :
    twoScripts.store.operand "x" = .ok 13 ∧
      twoScripts.store.operand "y" = .error (.unplaced (.invalidOperand "y" .absent)) ∧
      Text.digitCount (-7) ≤ Text.digitLimit ∧
      ((twoScripts.holding "x" (.text (Text.writeInt (-7)))).runAdd doubling).state =
        ((twoScripts.holding "x" (.int (-7))).runAdd doubling).state ∧
      ∃ later, (twoScripts.holding "x" (.int (-7))).runAdd doubling = .done later ∧
        later.store.operand "x" = .ok (-14) := by
  obtain ⟨hoperand, halike, hsum, -⟩ := operands_are_numerals
  have hdigits : Text.digitCount (-7) ≤ Text.digitLimit := by decide
  have hadds : doubling.Addition (twoScripts.holding "x" (.int (-7))).store ⟨"x", .input⟩
      ⟨"x", .input⟩ ⟨"x", .output⟩ (-7) (-7) :=
    ⟨⟨_, rfl⟩, ⟨_, rfl, rfl⟩, ⟨_, rfl, rfl⟩, by decide⟩
  refine ⟨?_, ?_, hdigits, ?_, hsum _ _ _ _ _ _ _ hadds⟩
  · exact (((hoperand _ "x" _ rfl).1 _ rfl).1 13).2 ⟨.thirteen, by decide, by decide⟩
  · exact (hoperand _ "y" _ rfl).2.1 rfl
  · have hstates := (halike (-7) hdigits twoScripts "x" doubling).2.2
    exact hstates _ _ _ _ rfl rfl (State.runAdd_failure_eq_none_iff.2 ⟨_, _, _, _, _, hadds⟩)

end Dataflow
