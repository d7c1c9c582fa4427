import Dataflow.Proofs.Execution

/-!
# Addition

A call of `add` takes its variables by position: two summands and a target, which may be one of the
summands. `PendingCall.Addition` tells a call that finds all it needs, and `PendingCall.AddObstacle`
the first thing in the way of one that does not; one of the two is the case
(`PendingCall.addition_or_obstacle`). Both summands are read before the target is written, so the sum
is that of the old values (`State.runAdd_of_addition`), and an obstacle is met before anything is
written (`State.runAdd_of_obstacle`).

Main statement: `State.add_sums_old_values`.
-/

set_option autoImplicit false

namespace Dataflow

/-! ## Summands -/

namespace Store

/-- The variable of a given name holds an integer, or a value that counts as one. -/
def Summand (store : Store) (name : String) (n : Int) : Prop :=
  ∃ v, store.find? name = some v ∧ v.value.toInt? = some n

/-- Why a variable is no summand: there is none of this name, or its value does not count as an
integer. -/
inductive Unfit (store : Store) (name : String) : Cause → Prop where
  | missing (hfind : store.find? name = none) : Unfit store name (.unknownVariable name)
  | nonInteger {v : Variable} (hfind : store.find? name = some v) (hvalue : v.value.toInt? = none) :
      Unfit store name (.invalidOperand name v.value)

variable {store : Store} {name left right : String} {cause : Cause} {a b : Int}

/-- A summand is looked up by its name, and then its value must count as an integer. -/
theorem operand_eq (store : Store) (name : String) :
    store.operand name =
      match store.find? name with
      | none => .error (.unplaced (.unknownVariable name))
      | some v =>
        match v.value.toInt? with
        | some n => .ok n
        | none => .error (.unplaced (.invalidOperand name v.value)) := by
  rw [operand, read, get]
  cases store.find? name with
  | none => rfl
  | some v => rfl

theorem operand_of_summand (h : store.Summand name a) : store.operand name = .ok a := by
  obtain ⟨v, hfind, hvalue⟩ := h
  rw [operand_eq, hfind]
  simp only [hvalue]

theorem operand_of_unfit (h : store.Unfit name cause) :
    store.operand name = .error (.unplaced cause) := by
  cases h with
  | missing hfind => rw [operand_eq, hfind]
  | nonInteger hfind hvalue =>
    rw [operand_eq, hfind]
    simp only [hvalue]

/-- A variable is a summand, or there is a reason why not. -/
theorem summand_or_unfit (store : Store) (name : String) :
    (∃ n, store.Summand name n) ∨ ∃ cause, store.Unfit name cause := by
  cases hfind : store.find? name with
  | none => exact Or.inr ⟨_, .missing hfind⟩
  | some v =>
    cases hvalue : v.value.toInt? with
    | none => exact Or.inr ⟨_, .nonInteger hfind hvalue⟩
    | some n => exact Or.inl ⟨n, v, hfind, hvalue⟩

/-- Stores that declare the same names, and whose variables count as the same summands. -/
structure CountsAlike (first second : Store) : Prop where
  names : first.names = second.names
  summand : ∀ name n, first.Summand name n → second.Summand name n
  unfit : ∀ name cause, first.Unfit name cause → second.Unfit name cause

theorem sum_of_summands (hleft : store.Summand left a) (hright : store.Summand right b) :
    store.sum left right = .ok (a + b) := by
  rw [sum, operand_of_summand hleft, operand_of_summand hright]

theorem sum_of_unfit_left (hleft : store.Unfit left cause) :
    store.sum left right = .error (.unplaced cause) := by
  rw [sum, operand_of_unfit hleft]

theorem sum_of_unfit_right (hleft : store.Summand left a) (hright : store.Unfit right cause) :
    store.sum left right = .error (.unplaced cause) := by
  rw [sum, operand_of_summand hleft, operand_of_unfit hright]

end Store

/-! ## Calls of `add` -/

/-- A call that finds what `add` needs: three variables, the first two of which are summands. What
is bound behind the third, and in which direction a variable is bound, does not matter. -/
structure PendingCall.Addition (call : PendingCall) (store : Store) (left right target : Binding)
    (a b : Int) : Prop where
  bindings : ∃ surplus, call.bindings = left :: right :: target :: surplus
  left : store.Summand left.name a
  right : store.Summand right.name b
  target : target.name ∈ store.names

/-- The first thing in the way of a call of `add`: it has too few variables, its first variable is no
summand, its second one is none though the first is, or both are and its third one is missing. -/
inductive PendingCall.AddObstacle (call : PendingCall) (store : Store) : Cause → Prop where
  | tooFew (hlength : call.bindings.length < 3) :
      AddObstacle call store (.intrinsicArity call.function 3 call.bindings.length)
  | left {left right target : Binding} {surplus : List Binding} {cause : Cause}
      (hbindings : call.bindings = left :: right :: target :: surplus)
      (hleft : store.Unfit left.name cause) : AddObstacle call store cause
  | right {left right target : Binding} {surplus : List Binding} {cause : Cause} {a : Int}
      (hbindings : call.bindings = left :: right :: target :: surplus)
      (hleft : store.Summand left.name a) (hright : store.Unfit right.name cause) :
      AddObstacle call store cause
  | target {left right target : Binding} {surplus : List Binding} {a b : Int}
      (hbindings : call.bindings = left :: right :: target :: surplus)
      (hleft : store.Summand left.name a) (hright : store.Summand right.name b)
      (htarget : target.name ∉ store.names) :
      AddObstacle call store (.unknownVariable target.name)

namespace PendingCall

/-- A call has three variables to add with, or too few. -/
theorem three_bindings_or_fewer (call : PendingCall) :
    (∃ left right target surplus, call.bindings = left :: right :: target :: surplus) ∨
      call.bindings.length < 3 := by
  rcases call with ⟨function, bindings⟩
  rcases bindings with _ | ⟨left, _ | ⟨right, _ | ⟨target, surplus⟩⟩⟩
  · exact Or.inr (Nat.succ_pos 2)
  · exact Or.inr (by simp)
  · exact Or.inr (by simp)
  · exact Or.inl ⟨left, right, target, surplus, rfl⟩

/-- A call finds all it needs, or there is a first thing in its way. -/
theorem addition_or_obstacle (call : PendingCall) (store : Store) :
    (∃ left right target a b, call.Addition store left right target a b) ∨
      ∃ cause, call.AddObstacle store cause := by
  rcases call.three_bindings_or_fewer with ⟨left, right, target, surplus, hbindings⟩ | hlength
  · rcases store.summand_or_unfit left.name with ⟨a, hleft⟩ | ⟨cause, hleft⟩
    · rcases store.summand_or_unfit right.name with ⟨b, hright⟩ | ⟨cause, hright⟩
      · by_cases htarget : target.name ∈ store.names
        · exact Or.inl ⟨left, right, target, a, b, ⟨surplus, hbindings⟩, hleft, hright, htarget⟩
        · exact Or.inr ⟨_, .target hbindings hleft hright htarget⟩
      · exact Or.inr ⟨cause, .right hbindings hleft hright⟩
    · exact Or.inr ⟨cause, .left hbindings hleft⟩
  · exact Or.inr ⟨_, .tooFew hlength⟩

/-- The order of the summands does not matter. -/
theorem Addition.swap {call other : PendingCall} {store : Store} {left right target : Binding}
    {surplus : List Binding} {a b : Int} (h : call.Addition store left right target a b)
    (hother : other.bindings = right :: left :: target :: surplus) :
    other.Addition store right left target b a where
  bindings := ⟨surplus, hother⟩
  left := h.right
  right := h.left
  target := h.target

section Alike

variable {call : PendingCall} {first second : Store}

theorem Addition.congr {left right target : Binding} {a b : Int}
    (h : call.Addition first left right target a b) (halike : first.CountsAlike second) :
    call.Addition second left right target a b where
  bindings := h.bindings
  left := halike.summand left.name a h.left
  right := halike.summand right.name b h.right
  target := halike.names ▸ h.target

theorem AddObstacle.congr {cause : Cause} (h : call.AddObstacle first cause)
    (halike : first.CountsAlike second) : call.AddObstacle second cause := by
  cases h with
  | tooFew hlength => exact .tooFew hlength
  | left hbindings hleft => exact .left hbindings (halike.unfit _ _ hleft)
  | right hbindings hleft hright =>
    exact .right hbindings (halike.summand _ _ hleft) (halike.unfit _ _ hright)
  | target hbindings hleft hright htarget =>
    exact .target hbindings (halike.summand _ _ hleft) (halike.summand _ _ hright)
      (halike.names ▸ htarget)

end Alike

end PendingCall

/-! ## Carrying out `add` -/

namespace State

/-- The state with an integer written to a variable, which is then ready. -/
def withSum (state : State) (target : String) (n : Int) : State :=
  { state with
    store := state.store.modify target fun v => { v with value := .int n, ready := true } }.note
      (.wrote target (.int n) true)

variable {state : State} {call : PendingCall}

theorem runAdd_of_bindings {left right target : Binding} {surplus : List Binding}
    (hbindings : call.bindings = left :: right :: target :: surplus) :
    state.runAdd call =
      match state.store.sum left.name right.name with
      | .ok n => state.write target.name (.int n) true
      | .error fault => .stopped state (.fault fault) := by
  obtain ⟨function, bindings⟩ := call
  cases hbindings
  rfl

/-- The sum of the values that the summands had is written, whichever variable is the target. -/
theorem runAdd_of_addition {left right target : Binding} {a b : Int}
    (h : call.Addition state.store left right target a b) :
    state.runAdd call = .done (state.withSum target.name (a + b)) := by
  obtain ⟨surplus, hbindings⟩ := h.bindings
  have hwrite : state.store.write target.name (.int (a + b)) true = .ok _ :=
    Store.write_eq_ok_iff.2 ⟨h.target, rfl⟩
  rw [runAdd_of_bindings hbindings, Store.sum_of_summands h.left h.right]
  simp only [write, hwrite]
  rfl

/-- The first thing in the way is reported, and nothing is changed. -/
theorem runAdd_of_obstacle {cause : Cause} (h : call.AddObstacle state.store cause) :
    state.runAdd call = .faulty state cause := by
  cases h with
  | tooFew hlength =>
    rw [runAdd]
    split
    · next left right target surplus hbindings =>
      rw [hbindings] at hlength
      simp only [List.length_cons] at hlength
      omega
    · rfl
  | left hbindings hleft =>
    rw [runAdd_of_bindings hbindings, Store.sum_of_unfit_left hleft]
    rfl
  | right hbindings hleft hright =>
    rw [runAdd_of_bindings hbindings, Store.sum_of_unfit_right hleft hright]
    rfl
  | @target left right target surplus a b hbindings hleft hright htarget =>
    -- the sum is known by now, but there is no variable to write it to
    have hwrite : state.store.write target.name (.int (a + b)) true = .error _ :=
      Store.write_eq_error_iff.2 ⟨htarget, rfl⟩
    rw [runAdd_of_bindings hbindings, Store.sum_of_summands hleft hright]
    simp only [write, hwrite]
    rfl

/-- A call of `add` succeeds just when it finds all it needs. -/
theorem runAdd_failure_eq_none_iff :
    (state.runAdd call).failure = none ↔
      ∃ left right target a b, call.Addition state.store left right target a b := by
  constructor
  · intro hnone
    rcases call.addition_or_obstacle state.store with hadds | ⟨cause, hobstacle⟩
    · exact hadds
    · rw [runAdd_of_obstacle hobstacle] at hnone
      cases hnone
  · rintro ⟨left, right, target, a, b, hadds⟩
    rw [runAdd_of_addition hadds]
    rfl

section Bindings

variable {other : PendingCall} {left right target : Binding} {surplus surplus' : List Binding}

/-- What is bound behind the third variable makes no difference. -/
theorem runAdd_surplus (hcall : call.bindings = left :: right :: target :: surplus)
    (hother : other.bindings = left :: right :: target :: surplus') :
    state.runAdd other = state.runAdd call := by
  rw [runAdd_of_bindings hcall, runAdd_of_bindings hother]

/-- Summands can change places: the same calls succeed, and they leave the same state. -/
theorem runAdd_swap (hcall : call.bindings = left :: right :: target :: surplus)
    (hother : other.bindings = right :: left :: target :: surplus') :
    ((state.runAdd other).failure = none ↔ (state.runAdd call).failure = none) ∧
      (state.runAdd other).state = (state.runAdd call).state := by
  rcases call.addition_or_obstacle state.store with
    ⟨_, _, _, a, b, hadds⟩ | ⟨cause, hobstacle⟩
  · obtain ⟨_, hbindings⟩ := hadds.bindings
    rw [hcall] at hbindings
    cases hbindings
    rw [runAdd_of_addition hadds, runAdd_of_addition (hadds.swap hother), Int.add_comm b a]
    exact ⟨Iff.rfl, rfl⟩
  · rcases other.addition_or_obstacle state.store with
      ⟨_, _, _, a, b, hadds⟩ | ⟨cause', hobstacle'⟩
    · -- then the first call would find all it needs as well
      obtain ⟨_, hbindings⟩ := hadds.bindings
      rw [hother] at hbindings
      cases hbindings
      have hnone := runAdd_failure_eq_none_iff.2 ⟨_, _, _, _, _, hadds.swap hcall⟩
      rw [runAdd_of_obstacle hobstacle] at hnone
      cases hnone
    · -- the two may stumble over different summands, but neither writes
      rw [runAdd_of_obstacle hobstacle, runAdd_of_obstacle hobstacle']
      exact ⟨⟨nofun, nofun⟩, rfl⟩

end Bindings

/-- A call of `add` succeeds just when it has three variables of which the first two are summands and
the third is declared. It then writes the sum of the two old values into the third, even if that is
one of the summands, marks it as ready, and changes nothing else. Otherwise it stops at the first
thing in its way, and the state stays as it is. Variables behind the third are ignored, and the
summands can change places. Running `add` as an intrinsic function records the call first. -/
theorem add_sums_old_values (setup : Setup) (call : PendingCall) (state : State) :
    setup.runIntrinsic .add call state = (state.note (.intrinsic call)).runAdd call ∧
    ((state.runAdd call).failure = none ↔
      ∃ left right target a b, call.Addition state.store left right target a b) ∧
    (∀ left right target a b, call.Addition state.store left right target a b →
      state.runAdd call =
        .done { state with
          store := ⟨state.store.entries.map fun v =>
            if v.name = target.name then { v with value := .int (a + b), ready := true } else v⟩
          journal := state.journal.push (.wrote target.name (.int (a + b)) true) }) ∧
    ((state.runAdd call).failure ≠ none → ∃ cause, call.AddObstacle state.store cause) ∧
    (∀ cause, call.AddObstacle state.store cause →
      state.runAdd call = .stopped state (.fault (.unplaced cause))) ∧
    ∀ left right target surplus, call.bindings = left :: right :: target :: surplus →
      (∀ others, state.runAdd ⟨call.function, left :: right :: target :: others⟩ =
        state.runAdd call) ∧
      ((state.runAdd ⟨call.function, right :: left :: target :: surplus⟩).failure = none ↔
        (state.runAdd call).failure = none) ∧
      (state.runAdd ⟨call.function, right :: left :: target :: surplus⟩).state =
        (state.runAdd call).state := by
  refine ⟨rfl, runAdd_failure_eq_none_iff, ?_, ?_, ?_, ?_⟩
  · intro left right target a b hadds
    exact runAdd_of_addition hadds
  · intro hfails
    rcases call.addition_or_obstacle state.store with hadds | hobstacle
    · exact absurd (runAdd_failure_eq_none_iff.2 hadds) hfails
    · exact hobstacle
  · intro cause hobstacle
    exact runAdd_of_obstacle hobstacle
  · intro left right target surplus hbindings
    exact ⟨fun others => runAdd_surplus hbindings rfl, runAdd_swap hbindings rfl⟩

/-- A state in which `x` holds a numeral and is reserved, `y` holds a word, and `z` nothing. -/
def numeralAndWord : State :=
  { State.initial #[] with
    store := ⟨[⟨"x", "int", .text "2", false, true⟩, ⟨"y", "int", .text "two", true, false⟩,
      ⟨"z", "int", .absent, false, false⟩]⟩ }

/-- Doubling in place, with a variable to spare: the sum is that of the old values. Of two summands
that are none, the first is reported, and in the other order the other. -/
theorem add_sums_old_values_doubling :
    numeralAndWord.runAdd ⟨"add", [⟨"x", .input⟩, ⟨"x", .output⟩, ⟨"x", .output⟩, ⟨"y", .input⟩]⟩ =
        .done { numeralAndWord with
          store := ⟨[⟨"x", "int", .int 4, true, true⟩, ⟨"y", "int", .text "two", true, false⟩,
            ⟨"z", "int", .absent, false, false⟩]⟩
          journal := #[.wrote "x" (.int 4) true] } ∧
      numeralAndWord.runAdd ⟨"add", [⟨"y", .input⟩, ⟨"w", .input⟩, ⟨"z", .output⟩]⟩ =
        .stopped numeralAndWord (.fault (.unplaced (.invalidOperand "y" (.text "two")))) ∧
      numeralAndWord.runAdd ⟨"add", [⟨"w", .input⟩, ⟨"y", .input⟩, ⟨"z", .output⟩]⟩ =
        .stopped numeralAndWord (.fault (.unplaced (.unknownVariable "w"))) := by
  have hread : Text.readInt "2" = some 2 := by decide +kernel
  have hword : Text.readInt "two" = none := by decide +kernel
  have hx : numeralAndWord.store.Summand "x" 2 := ⟨_, rfl, hread⟩
  have hy : numeralAndWord.store.Unfit "y" (.invalidOperand "y" (.text "two")) :=
    @Store.Unfit.nonInteger _ _ ⟨"y", "int", .text "two", true, false⟩ rfl hword
  have hw : numeralAndWord.store.Unfit "w" (.unknownVariable "w") := .missing rfl
  refine ⟨?_, ?_, ?_⟩
  · have hsum := (numeralAndWord.add_sums_old_values ⟨⟨[]⟩, 0, none⟩
      ⟨"add", [⟨"x", .input⟩, ⟨"x", .output⟩, ⟨"x", .output⟩, ⟨"y", .input⟩]⟩).2.2.1
    exact hsum _ _ _ 2 2 ⟨⟨_, rfl⟩, hx, hx, by decide⟩
  · have hfault := (numeralAndWord.add_sums_old_values ⟨⟨[]⟩, 0, none⟩
      ⟨"add", [⟨"y", .input⟩, ⟨"w", .input⟩, ⟨"z", .output⟩]⟩).2.2.2.2.1
    exact hfault _ (.left rfl hy)
  · have hfault := (numeralAndWord.add_sums_old_values ⟨⟨[]⟩, 0, none⟩
      ⟨"add", [⟨"w", .input⟩, ⟨"y", .input⟩, ⟨"z", .output⟩]⟩).2.2.2.2.1
    exact hfault _ (.left rfl hw)

end State

end Dataflow
