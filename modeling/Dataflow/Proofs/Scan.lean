import Mathlib.Data.List.Nodup
import Mathlib.Logic.Relation
import Dataflow.Queue

/-!
# Lookups, eligibility and scans

What the store answers after an operation, when a call is eligible, and what a scan of the queue
can find. `eligibleBindings_eq_ok_true_iff` says when a call may run, and the two lemmas behind it
why it may not. In a queue either all calls are ineligible or there is a first one that is not
(`Queue.eligible_split`), and the scan finds accordingly (`Queue.survey_of_ineligible`,
`Queue.survey_append`).

`Store.Change` is one successful operation on a store. What every operation keeps holds after any
number of them (`Store.Changes.keep`); that no variable is reserved (`Store.Unbound`) is kept.
-/

set_option autoImplicit false

namespace Dataflow

/-! ## Lookups -/

namespace Store

/-- A variable is found under its own name. -/
theorem name_of_find? {store : Store} {name : String} {v : Variable}
    (h : store.find? name = some v) : v.name = name := by
  have hname := List.find?_some h
  exact of_decide_eq_true hname

/-- A variable that is found is one of the entries. -/
theorem mem_of_find? {store : Store} {name : String} {v : Variable}
    (h : store.find? name = some v) : v ∈ store.entries :=
  List.mem_of_find?_eq_some h

/-- Looking up a name after a change in place: the change shows under its own name only. -/
theorem find?_modify (store : Store) (name other : String) {change : Variable → Variable}
    (hname : ∀ v, (change v).name = v.name) :
    (store.modify name change).find? other =
      if other = name then (store.find? other).map change else store.find? other := by
  -- a change in place keeps the names, so the search takes the same entry before and after it
  have hcomp : ((fun v : Variable => decide (v.name = other)) ∘
      fun v => if v.name = name then change v else v) = fun v => decide (v.name = other) := by
    funext v
    rw [Function.comp_apply]
    split
    · rw [hname]
    · rfl
  rw [find?, modify, List.find?_map, hcomp]
  cases hfind : store.entries.find? fun v => decide (v.name = other) with
  | none =>
    have hnone : store.find? other = none := hfind
    simp [hnone]
  | some v =>
    have hsome : store.find? other = some v := hfind
    have hv : v.name = other := name_of_find? hsome
    rw [hsome, Option.map_some, hv]
    split
    · rfl
    · rfl

/-- A name is declared when it can be looked up. -/
theorem exists_find?_iff (store : Store) (name : String) :
    (∃ v, store.find? name = some v) ↔ name ∈ store.names := by
  rw [← contains_iff, contains, Option.isSome_iff_exists]

/-- With every name declared once, a variable is found wherever it stands. -/
theorem find?_eq_some_iff {store : Store} {name : String} (hnames : store.names.Nodup)
    {v : Variable} :
    store.find? name = some v ↔ v ∈ store.entries ∧ v.name = name := by
  constructor
  · intro h
    exact ⟨mem_of_find? h, name_of_find? h⟩
  · rintro ⟨hmem, rfl⟩
    obtain ⟨w, hfind⟩ : ∃ w, store.find? v.name = some w :=
      (exists_find?_iff store v.name).2 (List.mem_map_of_mem hmem)
    rw [hfind, List.inj_on_of_nodup_map hnames (mem_of_find? hfind) hmem (name_of_find? hfind)]

theorem get_eq_ok_iff {store : Store} {name : String} {v : Variable} :
    store.get name = .ok v ↔ store.find? name = some v := by
  rw [get]
  split
  · next w hw => rw [hw, Except.ok.injEq, Option.some.injEq]
  · next hnone => simp [hnone]

theorem get_eq_error_iff {store : Store} {name : String} {fault : Fault} :
    store.get name = .error fault ↔
      store.find? name = none ∧ fault = .unplaced (.unknownVariable name) := by
  rw [get]
  split
  · next w hw => simp [hw]
  · next hnone => simp [hnone, eq_comm]

/-- Writing changes a declared variable in its place. -/
theorem write_eq_ok_iff {store store' : Store} {name : String} {value : Value} {ready : Bool} :
    store.write name value ready = .ok store' ↔
      name ∈ store.names ∧ store' = store.modify name fun v => { v with value, ready } := by
  rw [write, ← exists_find?_iff]
  split
  · next w hw => simp [hw, eq_comm]
  · next hnone => simp [hnone]

/-- The only fault of a write is an undeclared name. -/
theorem write_eq_error_iff {store : Store} {name : String} {value : Value} {ready : Bool}
    {fault : Fault} : store.write name value ready = .error fault ↔
      name ∉ store.names ∧ fault = .unplaced (.unknownVariable name) := by
  rw [write, ← exists_find?_iff]
  split
  · next w hw => simp [hw]
  · next hnone => simp [hnone, eq_comm]

/-! ## Changes of a store -/

/-- One successful operation on a store. -/
inductive Change (store store' : Store) : Prop where
  | declare {name type : String} (h : store.declare name type = .ok store')
  | write {name : String} {value : Value} {ready : Bool}
      (h : store.write name value ready = .ok store')
  | delete {name : String} (h : store.delete name = .ok store')

/-- Successful operations on a store, one after the other. -/
abbrev Changes : Store → Store → Prop := Relation.ReflTransGen Change

/-- What every operation keeps, a sequence of operations keeps. -/
theorem Changes.keep {P : Store → Prop}
    (hP : ∀ {store store'}, Change store store' → P store → P store') {store store' : Store}
    (h : Changes store store') (hstore : P store) : P store' := by
  induction h with
  | refl => exact hstore
  | tail _ hchange ih => exact hP hchange ih

/-- No variable is reserved. -/
def Unbound (store : Store) : Prop := ∀ v ∈ store.entries, v.bound = false

instance (store : Store) : Decidable store.Unbound :=
  inferInstanceAs (Decidable (∀ v ∈ store.entries, v.bound = false))

/-- A change in place that does not touch reservations reserves nothing. -/
theorem Unbound.modify {store : Store} (h : store.Unbound) (name : String)
    {change : Variable → Variable} (hchange : ∀ v, (change v).bound = v.bound) :
    (store.modify name change).Unbound := by
  intro v hv
  obtain ⟨w, hw, rfl⟩ := List.mem_map.1 hv
  split
  · rw [hchange]
    exact h w hw
  · exact h w hw

/-- No operation reserves a variable. -/
theorem Unbound.change {store store' : Store} (hchange : Change store store')
    (h : store.Unbound) : store'.Unbound := by
  cases hchange with
  | declare hstore =>
    rw [declare] at hstore
    split at hstore
    · simp at hstore
    · obtain rfl := Except.ok.inj hstore
      intro v hv
      rcases List.mem_append.1 hv with hv | hv
      · exact h v hv
      · rw [List.mem_singleton.1 hv, Variable.fresh]
  | write hstore =>
    obtain ⟨-, rfl⟩ := write_eq_ok_iff.1 hstore
    exact h.modify _ fun _ => rfl
  | delete hstore =>
    rw [delete] at hstore
    split at hstore
    · obtain rfl := Except.ok.inj hstore
      intro v hv
      exact h v (List.mem_filter.1 hv).1
    · simp at hstore

/-- A variable is declared and ready. -/
def Ready (store : Store) (name : String) : Prop :=
  ∃ v, store.find? name = some v ∧ v.ready = true

instance (store : Store) (name : String) : Decidable (store.Ready name) :=
  decidable_of_iff ((store.find? name).any Variable.ready = true)
    (Option.any_eq_true Variable.ready (store.find? name))

end Store

/-! ## Eligibility -/

/-- A call may run when all its variables exist, none is reserved, and its inputs are ready. -/
theorem eligibleBindings_eq_ok_true_iff {store : Store} {bindings : List Binding} :
    eligibleBindings store bindings = .ok true ↔
      ∀ b ∈ bindings, ∃ v, store.find? b.name = some v ∧ v.bound = false ∧
        (b.direction = .input → v.ready = true) := by
  induction bindings with
  | nil => simp [eligibleBindings]
  | cons b rest ih =>
    rw [eligibleBindings, List.forall_mem_cons, ← ih]
    cases hget : store.get b.name with
    | error fault =>
      have hnone := (Store.get_eq_error_iff.1 hget).1
      simp [hnone]
    | ok v =>
      have hfind := Store.get_eq_ok_iff.1 hget
      cases hbound : v.bound with
      | true => simp [hfind, hbound]
      | false =>
        by_cases hwait : b.direction = .input ∧ v.ready = false
        · simp [hfind, hbound, hwait]
        · have hready : b.direction = .input → v.ready = true := by
            intro hinput
            exact Bool.of_not_eq_false fun hv => hwait ⟨hinput, hv⟩
          simpa [hfind, hbound, hwait] using fun _ => hready

/-- A call that may not run has a variable that is reserved, or an input that is not ready. -/
theorem exists_of_eligibleBindings_eq_ok_false {store : Store} {bindings : List Binding}
    (h : eligibleBindings store bindings = .ok false) :
    ∃ b ∈ bindings, ∃ v, store.find? b.name = some v ∧
      (v.bound = true ∨ b.direction = .input ∧ v.ready = false) := by
  induction bindings with
  | nil => simp [eligibleBindings] at h
  | cons b rest ih =>
    rw [eligibleBindings] at h
    cases hget : store.get b.name with
    | error fault => simp [hget] at h
    | ok v =>
      have hfind := Store.get_eq_ok_iff.1 hget
      -- the two checks that give `false`, in the order in which they are made
      by_cases hbound : v.bound = true
      · exact ⟨b, List.mem_cons_self, v, hfind, Or.inl hbound⟩
      · by_cases hwait : b.direction = .input ∧ v.ready = false
        · exact ⟨b, List.mem_cons_self, v, hfind, Or.inr hwait⟩
        · simp only [hget, hbound, hwait, if_false, Bool.false_eq_true] at h
          obtain ⟨c, hc, hfound⟩ := ih h
          exact ⟨c, List.mem_cons_of_mem b hc, hfound⟩

/-- Checking a call faults only at a variable that does not exist. -/
theorem exists_of_eligibleBindings_eq_error {store : Store} {bindings : List Binding}
    {fault : Fault} (h : eligibleBindings store bindings = .error fault) :
    ∃ b ∈ bindings, store.find? b.name = none ∧
      fault = .unplaced (.unknownVariable b.name) := by
  induction bindings with
  | nil => simp [eligibleBindings] at h
  | cons b rest ih =>
    rw [eligibleBindings] at h
    cases hget : store.get b.name with
    | error other =>
      obtain ⟨hnone, hother⟩ := Store.get_eq_error_iff.1 hget
      simp only [hget, Except.error.injEq] at h
      exact ⟨b, List.mem_cons_self, hnone, h ▸ hother⟩
    | ok v =>
      simp only [hget] at h
      split at h
      · simp at h
      · split at h
        · simp at h
        · obtain ⟨c, hc, hfound⟩ := ih h
          exact ⟨c, List.mem_cons_of_mem b hc, hfound⟩

/-- In a store without reservations an ineligible call waits for an input. -/
theorem PendingCall.waiting_of_ineligible {call : PendingCall} {store : Store}
    (hunbound : store.Unbound) (h : call.eligible store = .ok false) :
    ∃ b ∈ call.bindings, b.direction = .input ∧ ∃ v, store.find? b.name = some v ∧
      v.ready = false := by
  obtain ⟨b, hb, v, hfind, hwhy⟩ := exists_of_eligibleBindings_eq_ok_false h
  rcases hwhy with hbound | ⟨hinput, hready⟩
  · have hfree := hunbound v (Store.mem_of_find? hfind)
    rw [hfree] at hbound
    cases hbound
  · exact ⟨b, hb, hinput, v, hfind, hready⟩

/-! ## Scans -/

namespace Queue

/-- Ineligible calls in front are passed over. -/
theorem surveyFrom_append {store : Store} {whenNone : Scan} {before : Queue}
    (hbefore : ∀ other ∈ before, other.eligible store = .ok false) (index : Nat) (rest : Queue) :
    surveyFrom store whenNone index (before ++ rest) =
      ⟨before ++ (surveyFrom store whenNone (index + before.length) rest).skipped,
        (surveyFrom store whenNone (index + before.length) rest).found⟩ := by
  induction before generalizing index with
  | nil => rfl
  | cons first before ih =>
    have hfirst := hbefore first List.mem_cons_self
    have hrest := ih (fun other hother => hbefore other (List.mem_cons_of_mem first hother))
      (index + 1)
    have hindex : index + 1 + before.length = index + (first :: before).length := by
      rw [List.length_cons]
      omega
    rw [hindex] at hrest
    rw [List.cons_append, surveyFrom, hfirst]
    simp only [hrest, List.cons_append]

/-- Either all calls are ineligible, or there is a first one that is not. -/
theorem eligible_split (store : Store) (queue : Queue) :
    (∀ call ∈ queue, call.eligible store = .ok false) ∨
      ∃ before call after, queue = before ++ call :: after ∧
        (∀ other ∈ before, other.eligible store = .ok false) ∧
        call.eligible store ≠ .ok false := by
  induction queue with
  | nil => exact Or.inl fun call hcall => absurd hcall List.not_mem_nil
  | cons first rest ih =>
    by_cases hfirst : first.eligible store = .ok false
    · rcases ih with hall | ⟨before, call, after, rfl, hbefore, hcall⟩
      · exact Or.inl (List.forall_mem_cons.2 ⟨hfirst, hall⟩)
      · exact Or.inr ⟨first :: before, call, after, rfl,
          List.forall_mem_cons.2 ⟨hfirst, hbefore⟩, hcall⟩
    · exact Or.inr ⟨[], first, rest, rfl, fun _ h => absurd h List.not_mem_nil, hfirst⟩

/-- A scan over ineligible calls to one that is not ineligible. -/
theorem survey_append {store : Store} {before after : Queue} {call : PendingCall}
    (hbefore : ∀ other ∈ before, other.eligible store = .ok false)
    (hcall : call.eligible store ≠ .ok false) :
    survey (before ++ call :: after) store =
      ⟨before, (call.eligible store).map fun _ => .runnable before.length call⟩ := by
  rw [survey, surveyFrom_append hbefore, surveyFrom]
  split
  · next fault hfault => simp [hfault, Except.map]
  · next htrue => simp [htrue, Except.map]
  · next hfalse => exact absurd hfalse hcall

/-- A scan over calls all of which are ineligible. -/
theorem survey_of_ineligible {store : Store} {queue : Queue} (hqueue : queue ≠ [])
    (hnone : ∀ call ∈ queue, call.eligible store = .ok false) :
    survey queue store = ⟨queue, .ok .stuck⟩ := by
  -- the whole queue is passed over, and what is behind it is what a scan of nothing finds
  have hscan := @surveyFrom_append store .stuck queue hnone 0 []
  have hempty : queue.isEmpty = false := by
    rw [List.isEmpty_eq_false_iff]
    exact hqueue
  rw [survey, hempty, if_neg Bool.false_ne_true]
  rw [List.append_nil] at hscan
  rw [hscan]
  simp [surveyFrom]

end Queue

end Dataflow
