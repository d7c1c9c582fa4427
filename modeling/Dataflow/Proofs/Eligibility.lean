import Mathlib.Data.List.Perm.Basic
import Dataflow.Proofs.Draining

/-!
# Eligibility and selection

Two things can be wrong with a binding of a call: its variable is missing, or it is in the way for
now (`Binding.Blocked`). Checking a call goes through its bindings in order and stops at the first
with which something is wrong, which decides between a fault and a refusal
(`eligibleBindings_eq_error_iff`, `eligibleBindings_eq_ok_false_iff`). A missing variable behind a
binding that is in the way is therefore overlooked, and the order of the bindings shows: a call is
checked as `PendingCall.AsPromised` says, in whatever order its bindings stand, exactly if it does not
have bindings of both kinds (`PendingCall.eligible_by_first_obstacle`).

A scan of the queue is decided by the first call that is not found ineligible (`Queue.FirstAt`), and
nothing behind it counts; taking the call that was found changes the queue at its place and nothing
else (`State.scan_decided_by_first`).
-/

set_option autoImplicit false

namespace Dataflow

/-! ## Obstacles -/

namespace Binding

/-- The variable of a binding is not declared. -/
def Missing (b : Binding) (store : Store) : Prop :=
  store.find? b.name = none

instance (b : Binding) (store : Store) : Decidable (b.Missing store) :=
  inferInstanceAs (Decidable (store.find? b.name = none))

/-- The variable of a binding is reserved, or it is to be read and is not ready. -/
def Blocked (b : Binding) (store : Store) : Prop :=
  ∃ v, store.find? b.name = some v ∧ (v.bound = true ∨ b.direction = .input ∧ v.ready = false)

variable {b : Binding} {store : Store}

theorem Blocked.not_missing (h : b.Blocked store) : ¬ b.Missing store := by
  obtain ⟨v, hfind, -⟩ := h
  rw [Missing, hfind]
  exact Option.some_ne_none v

/-- A binding with which nothing is wrong: its variable exists, is free, and is ready if it is to be
read. -/
theorem clear_iff :
    (¬ b.Missing store ∧ ¬ b.Blocked store) ↔
      ∃ v, store.find? b.name = some v ∧ v.bound = false ∧
        (b.direction = .input → v.ready = true) := by
  cases hfind : store.find? b.name with
  | none => simp [Missing, Blocked, hfind]
  | some v => simp [Missing, Blocked, hfind]

end Binding

section Checks

variable {store : Store} {bindings before after : List Binding} {b : Binding} {fault : Fault}

theorem eligibleBindings_cons_of_missing (h : b.Missing store) :
    eligibleBindings store (b :: after) = .error (.unplaced (.unknownVariable b.name)) := by
  rw [eligibleBindings, Store.get_eq_error_iff.2 ⟨h, rfl⟩]

theorem eligibleBindings_cons_of_blocked (h : b.Blocked store) :
    eligibleBindings store (b :: after) = .ok false := by
  obtain ⟨v, hfind, hwhy⟩ := h
  rw [eligibleBindings, Store.get_eq_ok_iff.2 hfind]
  rcases hwhy with hbound | hwait
  · simp [hbound]
  · simp [hwait]

theorem eligibleBindings_cons_of_clear (hmissing : ¬ b.Missing store)
    (hblocked : ¬ b.Blocked store) :
    eligibleBindings store (b :: after) = eligibleBindings store after := by
  obtain ⟨v, hfind, hbound, hready⟩ := Binding.clear_iff.1 ⟨hmissing, hblocked⟩
  have hwait : ¬ (b.direction = .input ∧ v.ready = false) := by
    rintro ⟨hinput, hunready⟩
    rw [hready hinput] at hunready
    cases hunready
  rw [eligibleBindings, Store.get_eq_ok_iff.2 hfind]
  simp [hbound, hwait]

/-- Checking faults exactly if the first binding with which something is wrong misses its variable. -/
theorem eligibleBindings_eq_error_iff :
    eligibleBindings store bindings = .error fault ↔
      ∃ before b after, bindings = before ++ b :: after ∧
        (∀ c ∈ before, ¬ c.Missing store ∧ ¬ c.Blocked store) ∧ b.Missing store ∧
        fault = .unplaced (.unknownVariable b.name) := by
  constructor
  · intro h
    induction bindings with
    | nil => cases h
    | cons first rest ih =>
      by_cases hmissing : first.Missing store
      · rw [eligibleBindings_cons_of_missing hmissing] at h
        exact ⟨[], first, rest, rfl, by simp, hmissing, (Except.error.inj h).symm⟩
      · by_cases hblocked : first.Blocked store
        · rw [eligibleBindings_cons_of_blocked hblocked] at h
          cases h
        · rw [eligibleBindings_cons_of_clear hmissing hblocked] at h
          obtain ⟨before, b, after, rfl, hbefore, hb, hfault⟩ := ih h
          exact ⟨first :: before, b, after, rfl,
            List.forall_mem_cons.2 ⟨⟨hmissing, hblocked⟩, hbefore⟩, hb, hfault⟩
  · rintro ⟨before, b, after, rfl, hbefore, hb, rfl⟩
    induction before with
    | nil => exact eligibleBindings_cons_of_missing hb
    | cons first before ih =>
      obtain ⟨hfirst, hbefore⟩ := List.forall_mem_cons.1 hbefore
      rw [List.cons_append, eligibleBindings_cons_of_clear hfirst.1 hfirst.2]
      exact ih hbefore

/-- A call is found ineligible exactly if a binding is in the way and no variable in front of it is
missing. -/
theorem eligibleBindings_eq_ok_false_iff :
    eligibleBindings store bindings = .ok false ↔
      ∃ before b after, bindings = before ++ b :: after ∧ (∀ c ∈ before, ¬ c.Missing store) ∧
        b.Blocked store := by
  constructor
  · intro h
    induction bindings with
    | nil => cases h
    | cons first rest ih =>
      by_cases hmissing : first.Missing store
      · rw [eligibleBindings_cons_of_missing hmissing] at h
        cases h
      · by_cases hblocked : first.Blocked store
        · exact ⟨[], first, rest, rfl, by simp, hblocked⟩
        · rw [eligibleBindings_cons_of_clear hmissing hblocked] at h
          obtain ⟨before, b, after, rfl, hbefore, hb⟩ := ih h
          exact ⟨first :: before, b, after, rfl,
            List.forall_mem_cons.2 ⟨hmissing, hbefore⟩, hb⟩
  · rintro ⟨before, b, after, rfl, hbefore, hb⟩
    induction before with
    | nil => exact eligibleBindings_cons_of_blocked hb
    | cons first before ih =>
      obtain ⟨hfirst, hbefore⟩ := List.forall_mem_cons.1 hbefore
      rw [List.cons_append]
      -- another binding in front may be in the way already
      by_cases hblocked : first.Blocked store
      · exact eligibleBindings_cons_of_blocked hblocked
      · rw [eligibleBindings_cons_of_clear hfirst hblocked]
        exact ih hbefore

end Checks

namespace PendingCall

/-- What is promised of checking a call: it faults exactly if a variable that the call is bound to is
missing, and otherwise tells whether none of them is in the way. -/
structure AsPromised (call : PendingCall) (store : Store) : Prop where
  faults : (∃ name, call.eligible store = .error (.unplaced (.unknownVariable name))) ↔
    ∃ b ∈ call.bindings, b.Missing store
  verdict : (∀ b ∈ call.bindings, ¬ b.Missing store) →
    (call.eligible store = .ok true ↔ ∀ b ∈ call.bindings, ¬ b.Blocked store)

variable {call : PendingCall} {store : Store}

theorem eligible_eq_ok_true_iff_clear :
    call.eligible store = .ok true ↔
      ∀ b ∈ call.bindings, ¬ b.Missing store ∧ ¬ b.Blocked store := by
  rw [eligible, eligibleBindings_eq_ok_true_iff]
  exact forall₂_congr fun b hb => Binding.clear_iff.symm

/-- The promise is broken exactly by a call that is found ineligible although a variable is missing. -/
theorem asPromised_iff :
    call.AsPromised store ↔
      ¬ (call.eligible store = .ok false ∧ ∃ b ∈ call.bindings, b.Missing store) := by
  constructor
  · rintro h ⟨hfalse, hmissing⟩
    obtain ⟨name, hname⟩ := h.faults.2 hmissing
    rw [hfalse] at hname
    cases hname
  · intro h
    constructor
    · constructor
      · rintro ⟨name, hname⟩
        obtain ⟨before, b, after, hbindings, -, hb, -⟩ := eligibleBindings_eq_error_iff.1 hname
        exact ⟨b, by simp [hbindings], hb⟩
      · rintro ⟨b, hb, hmissing⟩
        cases hresult : call.eligible store with
        | error fault =>
          obtain ⟨-, c, -, -, -, -, rfl⟩ := eligibleBindings_eq_error_iff.1 hresult
          exact ⟨c.name, rfl⟩
        | ok verdict =>
          cases verdict with
          | false => exact absurd ⟨hresult, b, hb, hmissing⟩ h
          | true => exact absurd hmissing (eligible_eq_ok_true_iff_clear.1 hresult b hb).1
    · intro hexist
      rw [eligible_eq_ok_true_iff_clear]
      exact forall₂_congr fun b hb => and_iff_right (hexist b hb)

/-- Checking a call is decided by the first of its bindings with which something is wrong. It keeps
the promise unless a binding that is in the way hides a missing variable behind it; and it keeps the
promise for every order of the bindings exactly if they are not of both kinds. -/
theorem eligible_by_first_obstacle (call : PendingCall) (store : Store) :
    (∀ fault, call.eligible store = .error fault ↔
      ∃ before b after, call.bindings = before ++ b :: after ∧
        (∀ c ∈ before, ¬ c.Missing store ∧ ¬ c.Blocked store) ∧ b.Missing store ∧
        fault = .unplaced (.unknownVariable b.name)) ∧
    (call.eligible store = .ok true ↔
      ∀ b ∈ call.bindings, ¬ b.Missing store ∧ ¬ b.Blocked store) ∧
    (call.eligible store = .ok false ↔
      ∃ before b after, call.bindings = before ++ b :: after ∧
        (∀ c ∈ before, ¬ c.Missing store) ∧ b.Blocked store) ∧
    (call.AsPromised store ↔
      ¬ ∃ before b after, call.bindings = before ++ b :: after ∧
        (∀ c ∈ before, ¬ c.Missing store) ∧ b.Blocked store ∧ ∃ c ∈ after, c.Missing store) ∧
    ((∀ other : PendingCall, other.bindings.Perm call.bindings → other.AsPromised store) ↔
      ¬ ((∃ b ∈ call.bindings, b.Missing store) ∧ ∃ b ∈ call.bindings, b.Blocked store)) := by
  refine ⟨fun fault => eligibleBindings_eq_error_iff, eligible_eq_ok_true_iff_clear,
    eligibleBindings_eq_ok_false_iff, ?_, ?_⟩
  · rw [asPromised_iff, not_iff_not]
    constructor
    · rintro ⟨hfalse, c, hc, hmissing⟩
      obtain ⟨before, b, after, hbindings, hbefore, hb⟩ :=
        eligibleBindings_eq_ok_false_iff.1 hfalse
      refine ⟨before, b, after, hbindings, hbefore, hb, c, ?_, hmissing⟩
      rw [hbindings] at hc
      rcases List.mem_append.1 hc with hc | hc
      · exact absurd hmissing (hbefore c hc)
      · rcases List.mem_cons.1 hc with rfl | hc
        · exact absurd hmissing hb.not_missing
        · exact hc
    · rintro ⟨before, b, after, hbindings, hbefore, hb, c, hc, hmissing⟩
      refine ⟨eligibleBindings_eq_ok_false_iff.2 ⟨before, b, after, hbindings, hbefore, hb⟩, c, ?_,
        hmissing⟩
      simp [hbindings, hc]
  · constructor
    · rintro h ⟨⟨c, hc, hmissing⟩, b, hb, hblocked⟩
      -- the binding that is in the way is put in front of all others
      have hperm : (b :: call.bindings.erase b).Perm call.bindings :=
        (List.perm_cons_erase hb).symm
      have hpromised := h ⟨call.function, b :: call.bindings.erase b⟩ hperm
      exact asPromised_iff.1 hpromised
        ⟨eligibleBindings_cons_of_blocked hblocked, c, hperm.mem_iff.2 hc, hmissing⟩
    · intro h other hperm
      rw [asPromised_iff]
      rintro ⟨hfalse, c, hc, hmissing⟩
      obtain ⟨before, b, after, hbindings, -, hb⟩ := eligibleBindings_eq_ok_false_iff.1 hfalse
      have hmem : b ∈ other.bindings := by simp [hbindings]
      exact h ⟨⟨c, hperm.mem_iff.1 hc, hmissing⟩, b, hperm.mem_iff.1 hmem, hb⟩

/-- A variable that is not ready hides a missing one behind it, and does not hide one in front. -/
theorem eligible_overlooks_missing :
    let store : Store := ⟨[.fresh "x" "int"]⟩
    let x : Binding := ⟨"x", .input⟩
    let y : Binding := ⟨"y", .input⟩
    y.Missing store ∧
      (PendingCall.mk "f" [x, y]).eligible store = .ok false ∧
      (PendingCall.mk "f" [y, x]).eligible store = .error (.unplaced (.unknownVariable "y")) ∧
      ¬ (PendingCall.mk "f" [x, y]).AsPromised store := by
  have hmissing : Binding.Missing ⟨"y", .input⟩ ⟨[.fresh "x" "int"]⟩ := by
    decide
  have hfalse : (PendingCall.mk "f" [⟨"x", .input⟩, ⟨"y", .input⟩]).eligible
      ⟨[.fresh "x" "int"]⟩ = .ok false := by
    rfl
  exact ⟨hmissing, hfalse, rfl, fun h => asPromised_iff.1 h ⟨hfalse, _, by simp, hmissing⟩⟩

end PendingCall

/-! ## Selection -/

/-- The first place in a queue whose call is not found ineligible. -/
structure Queue.FirstAt (queue : Queue) (store : Store) (index : Nat) (call : PendingCall) :
    Prop where
  here : queue[index]? = some call
  decided : call.eligible store ≠ .ok false
  ahead : ∀ i other, i < index → queue[i]? = some other → other.eligible store = .ok false

namespace Queue.FirstAt

variable {queue : Queue} {store : Store} {index : Nat} {call : PendingCall}

theorem eq_append (h : queue.FirstAt store index call) :
    queue = queue.take index ++ call :: queue.drop (index + 1) := by
  obtain ⟨hlt, hcall⟩ := List.getElem?_eq_some_iff.1 h.here
  rw [← hcall, List.getElem_cons_drop, List.take_append_drop]

theorem ineligible_of_mem_take (h : queue.FirstAt store index call) :
    ∀ other ∈ queue.take index, other.eligible store = .ok false := by
  intro other hother
  obtain ⟨i, hi, hget⟩ := List.mem_take_iff_getElem.1 hother
  exact h.ahead i other (Nat.lt_of_lt_of_le hi (Nat.min_le_left _ _))
    (List.getElem?_eq_some_iff.2 ⟨_, hget⟩)

/-- A scan stops at the first call that is not ineligible, whatever is behind it. -/
theorem select_eq (h : queue.FirstAt store index call) (behind : Queue) :
    Queue.select (queue.take index ++ call :: behind) store =
      (call.eligible store).map fun _ => .runnable index call := by
  obtain ⟨hlt, -⟩ := List.getElem?_eq_some_iff.1 h.here
  have hlength : (queue.take index).length = index := by
    rw [List.length_take]
    omega
  rw [Queue.select, Queue.survey_append h.ineligible_of_mem_take h.decided, hlength]

end Queue.FirstAt

/-- Without such a place, all calls are ineligible. -/
theorem Queue.ineligible_of_no_first {queue : Queue} {store : Store}
    (h : ∀ index call, ¬ queue.FirstAt store index call) :
    ∀ call ∈ queue, call.eligible store = .ok false := by
  rcases Queue.eligible_split store queue with hall | ⟨before, call, after, rfl, hbefore, hcall⟩
  · exact hall
  · refine absurd ⟨by simp, hcall, ?_⟩ (h before.length call)
    intro i other hi hother
    rw [List.getElem?_append_left hi] at hother
    exact hbefore other (List.mem_of_getElem? hother)

namespace State

section Scans

variable (state : State)

theorem select_found : state.select.2 = state.queue.select state.store := rfl

/-- Scanning changes the journal only. -/
theorem select_keeps : { state.select.1 with journal := state.journal } = state := by
  rw [select, noteSkipped_eq]

/-- What a scan found is taken out of the queue, and nothing else happens. -/
theorem pop_eq :
    state.pop =
      ({ state.select.1 with
          queue := match state.select.2 with
            | .ok scan => state.queue.remove scan
            | .error _ => state.queue },
        state.select.2) := by
  have hqueue : state.select.1.queue = state.queue := by
    rw [select, queue_noteSkipped]
  rw [pop]
  split
  · next later scan h =>
    rw [h] at hqueue ⊢
    rw [← hqueue]
  · next later fault h =>
    rw [h] at hqueue ⊢
    rw [← hqueue]

/-- Taking a call changes the queue and the journal only. -/
theorem pop_keeps :
    { state.pop.1 with queue := state.queue, journal := state.journal } = state := by
  rw [pop_eq]
  exact congrArg (fun later : State => { later with queue := state.queue }) state.select_keeps

end Scans

/-- A scan is decided by the first call that is not found ineligible: if the call is eligible it is
found in its place, if it cannot be checked the scan fails as the check does, and no call behind it
makes a difference. Without such a call the scan tells an empty queue from one that is stuck. Taking
a call finds what the scan finds; it removes the call from its place, or leaves the queue as it is if
none was found, and changes nothing else. -/
theorem scan_decided_by_first (state : State) :
    (∀ index call, state.queue.FirstAt state.store index call →
      (call.eligible state.store = .ok true → state.select.2 = .ok (.runnable index call)) ∧
      (∀ fault, call.eligible state.store = .error fault →
        state.select.2 = .error fault ∧
          ∃ b ∈ call.bindings, b.Missing state.store ∧
            fault = .unplaced (.unknownVariable b.name)) ∧
      ∀ behind, { state with queue := state.queue.take (index + 1) ++ behind }.select.2 =
        state.select.2) ∧
    ((∀ index call, ¬ state.queue.FirstAt state.store index call) →
      state.select.2 = .ok (if state.queue = [] then .empty else .stuck)) ∧
    state.pop.2 = state.select.2 ∧
    (∀ index call, state.select.2 = .ok (.runnable index call) →
      state.pop.1.queue = state.queue.eraseIdx index) ∧
    ((∀ index call, state.select.2 ≠ .ok (.runnable index call)) →
      state.pop.1.queue = state.queue) ∧
    { state.select.1 with journal := state.journal } = state ∧
    { state.pop.1 with queue := state.queue, journal := state.journal } = state := by
  refine ⟨?_, ?_, by rw [pop_eq], ?_, ?_, state.select_keeps, state.pop_keeps⟩
  · intro index call hfirst
    have hselect : state.select.2 =
        (call.eligible state.store).map fun _ => .runnable index call := by
      rw [select_found, hfirst.eq_append]
      exact hfirst.select_eq _
    refine ⟨?_, ?_, ?_⟩
    · intro htrue
      rw [hselect, htrue]
      rfl
    · intro fault hfault
      refine ⟨by rw [hselect, hfault]; rfl, ?_⟩
      obtain ⟨before, b, after, hbindings, -, hmissing, rfl⟩ :=
        eligibleBindings_eq_error_iff.1 hfault
      exact ⟨b, by simp [hbindings], hmissing, rfl⟩
    · intro behind
      have htake : state.queue.take (index + 1) ++ behind =
          state.queue.take index ++ call :: behind := by
        rw [List.take_add_one, hfirst.here]
        simp
      rw [hselect, select_found, htake]
      exact hfirst.select_eq behind
  · intro hnone
    rw [select_found]
    by_cases hqueue : state.queue = []
    · rw [hqueue]
      rfl
    · rw [if_neg hqueue, Queue.select,
        Queue.survey_of_ineligible hqueue (Queue.ineligible_of_no_first hnone)]
  · intro index call hfound
    rw [pop_eq, hfound]
    rfl
  · intro hnone
    rw [pop_eq]
    dsimp only
    split
    · next scan hscan =>
      cases scan with
      | empty => rfl
      | stuck => rfl
      | runnable index call => exact absurd hscan (hnone index call)
    · rfl

/-- A queue in which a call waits for an input, one for a reserved variable, one can run, and one
misses its variable. -/
def mixedQueue : State :=
  { State.initial #[] with
    store := ⟨[⟨"a", "int", .absent, false, false⟩, ⟨"b", "int", .int 1, true, false⟩,
      ⟨"c", "int", .int 2, true, true⟩]⟩
    queue := [⟨"print", [⟨"a", .input⟩]⟩, ⟨"print", [⟨"c", .output⟩]⟩, ⟨"print", [⟨"b", .input⟩]⟩,
      ⟨"print", [⟨"nowhere", .input⟩]⟩] }

/-- The call that can run is found and taken, though the one behind it could not be checked. -/
theorem scan_decided_by_first_mixed_queue :
    mixedQueue.queue.FirstAt mixedQueue.store 2 ⟨"print", [⟨"b", .input⟩]⟩ ∧
      mixedQueue.select.2 = .ok (.runnable 2 ⟨"print", [⟨"b", .input⟩]⟩) ∧
      mixedQueue.pop.2 = .ok (.runnable 2 ⟨"print", [⟨"b", .input⟩]⟩) ∧
      mixedQueue.pop.1.queue = [⟨"print", [⟨"a", .input⟩]⟩, ⟨"print", [⟨"c", .output⟩]⟩,
        ⟨"print", [⟨"nowhere", .input⟩]⟩] := by
  have hfirst : mixedQueue.queue.FirstAt mixedQueue.store 2 ⟨"print", [⟨"b", .input⟩]⟩ := by
    refine ⟨rfl, ?_, ?_⟩
    · exact fun h => by cases h
    · intro i other hi hother
      match i, hi with
      | 0, _ => rw [← Option.some.inj hother]; rfl
      | 1, _ => rw [← Option.some.inj hother]; rfl
  obtain ⟨hdecided, -, hpop, htaken, -⟩ := mixedQueue.scan_decided_by_first
  have hselect := (hdecided 2 _ hfirst).1 rfl
  exact ⟨hfirst, hselect, hpop.trans hselect, htaken 2 _ hselect⟩

end State

end Dataflow
