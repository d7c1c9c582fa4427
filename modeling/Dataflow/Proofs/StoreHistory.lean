import Dataflow.Proofs.CleanStops

/-!
# Stores and their histories

A store is used by one action after the other, some of which fail. `Course` is such a use: the store
and what succeeded so far. What the store holds can be told from the past alone. A variable is live
since its last declaration if it was not deleted since then (`LiveSince`), and it holds what was
written last since then (`contents`). `recount` lists the variables that are live after a past, and
it lists the variables of the store (`Course.entries_after`): each action changes the list as it
changes the store (`recount_declare`, `recount_write`, `recount_delete`).

Main statement: `Course.store_tells_history`.
-/

set_option autoImplicit false

namespace Dataflow

namespace Store

/-! ## Actions -/

/-- What can be done with a store, or asked of it. -/
inductive Action where
  | declare (name type : String)
  | write (name : String) (value : Value) (ready : Bool)
  | delete (name : String)
  | get (name : String)
  | read (name : String)
  | isReady (name : String)
  | contains (name : String)
  | names
  | size
  deriving DecidableEq, Repr

/-- What a store answers. -/
inductive Answer where
  | done
  | described (v : Variable)
  | value (value : Value)
  | truth (b : Bool)
  | names (names : List String)
  | size (n : Nat)
  deriving DecidableEq, Repr

/-- The outcome of an action that changes the store, if it does not fail. -/
def settle (store : Store) (answer : Answer) : Except Fault Store → Store × Except Fault Answer
  | .ok later => (later, .ok answer)
  | .error fault => (store, .error fault)

/-- Carries out an action. -/
def act (store : Store) : Action → Store × Except Fault Answer
  | .declare name type => store.settle (.described (.fresh name type)) (store.declare name type)
  | .write name value ready => store.settle .done (store.write name value ready)
  | .delete name => store.settle .done (store.delete name)
  | .get name => (store, (store.get name).map .described)
  | .read name => (store, (store.read name).map .value)
  | .isReady name => (store, (store.isReady name).map .truth)
  | .contains name => (store, .ok (.truth (store.contains name)))
  | .names => (store, .ok (.names store.names))
  | .size => (store, .ok (.size store.size))

/-- The variable that an action is about. -/
def Action.name? : Action → Option String
  | .declare name _ => some name
  | .write name _ _ => some name
  | .delete name => some name
  | .get name => some name
  | .read name => some name
  | .isReady name => some name
  | .contains name => some name
  | .names => none
  | .size => none

/-- Whether an action leaves every store as it is. -/
def Action.inspects : Action → Bool
  | .declare _ _ => false
  | .write _ _ _ => false
  | .delete _ => false
  | _ => true

/-- The variable that an action cannot do without. -/
def Action.needs? : Action → Option String
  | .write name _ _ => some name
  | .delete name => some name
  | .get name => some name
  | .read name => some name
  | .isReady name => some name
  | _ => none

/-! ## Pasts -/

/-- After its last declaration, which gave it a type, a variable was not deleted; `since` is what was
done since that declaration. -/
structure LiveSince (past : List Action) (name type : String) (since : List Action) : Prop where
  declared : ∃ before, past = before ++ .declare name type :: since
  last : ∀ other, .declare name other ∉ since
  kept : .delete name ∉ since

/-- A variable was declared, and not deleted since its last declaration. -/
def Live (past : List Action) (name : String) : Prop := ∃ type since, LiveSince past name type since

/-- What an action writes to a variable. -/
def Action.writes? (name : String) : Action → Option (Value × Bool)
  | .write other value ready => if other = name then some (value, ready) else none
  | _ => none

/-- The value and the readiness that a variable has after actions behind its declaration: those that
were written last, or none if nothing was written. -/
def contents (name : String) (since : List Action) : Value × Bool :=
  (since.filterMap (Action.writes? name)).getLast?.getD (.absent, false)

/-- The variable that its declaration and what was done since then leave. -/
def remains (name type : String) (since : List Action) : Variable :=
  ⟨name, type, (contents name since).1, (contents name since).2, false⟩

/-- Whether an action ends what an earlier declaration of a name began. -/
def Action.resets (name : String) : Action → Bool
  | .declare other _ => other = name
  | .delete other => other = name
  | _ => false

/-- The variable that is left of an action after what was done since: that of a declaration, unless
its name was declared again or deleted. -/
def survivor? (since : List Action) : Action → Option Variable
  | .declare name type =>
    if since.any (Action.resets name) then none else some (remains name type since)
  | _ => none

/-- The variables that are live after a past, in the order of their last declarations. -/
def recount : List Action → List Variable
  | [] => []
  | action :: since => (survivor? since action).toList ++ recount since

/-! ## Live variables -/

section Live

variable {past since : List Action} {name type : String}

theorem any_resets_eq_false_iff :
    since.any (Action.resets name) = false ↔
      (∀ other, .declare name other ∉ since) ∧ .delete name ∉ since := by
  rw [List.any_eq_false]
  constructor
  · intro h
    refine ⟨fun other hmem => ?_, fun hmem => ?_⟩
    · exact h _ hmem (decide_eq_true rfl)
    · exact h _ hmem (decide_eq_true rfl)
  · rintro ⟨hdeclare, hdelete⟩ action hmem hresets
    cases action with
    | declare other type =>
      obtain rfl : other = name := of_decide_eq_true hresets
      exact hdeclare type hmem
    | delete other =>
      obtain rfl : other = name := of_decide_eq_true hresets
      exact hdelete hmem
    | write | get | read | isReady | contains | names | size => cases hresets

/-- A variable is live since the first action of a past, or since a later one. -/
theorem liveSince_cons_iff {action : Action} :
    LiveSince (action :: past) name type since ↔
      (action = .declare name type ∧ since = past ∧ past.any (Action.resets name) = false) ∨
        LiveSince past name type since := by
  constructor
  · rintro ⟨⟨before, hpast⟩, hlast, hkept⟩
    rcases before with _ | ⟨first, before⟩
    · obtain ⟨rfl, rfl⟩ := List.cons.inj hpast
      exact Or.inl ⟨rfl, rfl, any_resets_eq_false_iff.2 ⟨hlast, hkept⟩⟩
    · obtain ⟨rfl, rfl⟩ := List.cons.inj hpast
      exact Or.inr ⟨⟨before, rfl⟩, hlast, hkept⟩
  · rintro (⟨rfl, rfl, hresets⟩ | ⟨⟨before, rfl⟩, hlast, hkept⟩)
    · obtain ⟨hlast, hkept⟩ := any_resets_eq_false_iff.1 hresets
      exact ⟨⟨[], rfl⟩, hlast, hkept⟩
    · exact ⟨⟨action :: before, rfl⟩, hlast, hkept⟩

theorem mem_survivor?_iff {action : Action} {v : Variable} :
    v ∈ (survivor? past action).toList ↔
      action = .declare v.name v.type ∧ past.any (Action.resets v.name) = false ∧
        v = remains v.name v.type past := by
  cases action with
  | declare name type =>
    rw [survivor?]
    constructor
    · intro h
      split at h
      · cases h
      · next hresets =>
        rw [Option.toList_some, List.mem_singleton] at h
        subst h
        exact ⟨rfl, Bool.eq_false_iff.2 hresets, rfl⟩
    · rintro ⟨haction, hresets, hv⟩
      obtain ⟨rfl, rfl⟩ := Action.declare.inj haction
      rw [if_neg (Bool.eq_false_iff.1 hresets), Option.toList_some, List.mem_singleton]
      exact hv
  | write | delete | get | read | isReady | contains | names | size => simp [survivor?]

/-- The variables that are recounted are the live ones, each with what was written to it last. -/
theorem mem_recount_iff {v : Variable} :
    v ∈ recount past ↔
      ∃ since, LiveSince past v.name v.type since ∧ v = remains v.name v.type since := by
  induction past with
  | nil =>
    constructor
    · intro h
      cases h
    · rintro ⟨since, ⟨⟨before, hpast⟩, -, -⟩, -⟩
      simp at hpast
  | cons action past ih =>
    rw [recount, List.mem_append, mem_survivor?_iff, ih]
    constructor
    · rintro (⟨haction, hresets, hv⟩ | ⟨since, hlive, hv⟩)
      · exact ⟨past, liveSince_cons_iff.2 (Or.inl ⟨haction, rfl, hresets⟩), hv⟩
      · exact ⟨since, liveSince_cons_iff.2 (Or.inr hlive), hv⟩
    · rintro ⟨since, hlive, hv⟩
      rcases liveSince_cons_iff.1 hlive with ⟨haction, rfl, hresets⟩ | hlive
      · exact Or.inl ⟨haction, hresets, hv⟩
      · exact Or.inr ⟨since, hlive, hv⟩

/-- The last declaration of one name came before that of another. -/
def DeclaredBefore (past : List Action) (first second : String) : Prop :=
  ∃ type since type' since', LiveSince past first type since ∧ LiveSince past second type' since' ∧
    since'.length < since.length

theorem DeclaredBefore.cons {first second : String} (h : DeclaredBefore past first second)
    (action : Action) : DeclaredBefore (action :: past) first second := by
  obtain ⟨type, since, type', since', hfirst, hsecond, hlength⟩ := h
  exact ⟨type, since, type', since', liveSince_cons_iff.2 (Or.inr hfirst),
    liveSince_cons_iff.2 (Or.inr hsecond), hlength⟩

/-- Variables are recounted once, and in the order of their last declarations. -/
theorem pairwise_recount (past : List Action) :
    (recount past).Pairwise fun v w => v.name ≠ w.name ∧ DeclaredBefore past v.name w.name := by
  induction past with
  | nil => exact List.Pairwise.nil
  | cons action past ih =>
    rw [recount, List.pairwise_append]
    refine ⟨?_, ih.imp fun h => ⟨h.1, h.2.cons action⟩, ?_⟩
    · cases survivor? past action with
      | none => exact List.Pairwise.nil
      | some v => exact List.pairwise_singleton _ v
    · intro v hv w hw
      obtain ⟨haction, hresets, -⟩ := mem_survivor?_iff.1 hv
      obtain ⟨since, hlive, -⟩ := mem_recount_iff.1 hw
      obtain ⟨before, hpast⟩ := hlive.declared
      have hmem : .declare w.name w.type ∈ past := by
        rw [hpast]
        exact List.mem_append_right before List.mem_cons_self
      have hlength : since.length < past.length := by
        rw [hpast, List.length_append, List.length_cons]
        omega
      constructor
      · -- otherwise the later declaration would have taken the place of the earlier one
        intro hname
        rw [hname] at hresets
        exact (any_resets_eq_false_iff.1 hresets).1 w.type hmem
      · exact ⟨v.type, past, w.type, since,
          liveSince_cons_iff.2 (Or.inl ⟨haction, rfl, hresets⟩),
          liveSince_cons_iff.2 (Or.inr hlive), hlength⟩

end Live

/-! ## One more action -/

section Concat

variable (past : List Action) (name : String)

/-- What was written last is what the last action wrote, if it wrote to the variable. -/
theorem contents_concat (action : Action) :
    contents name (past ++ [action]) = (action.writes? name).getD (contents name past) := by
  rw [contents, List.filterMap_append, contents]
  cases haction : action.writes? name with
  | none => simp [haction]
  | some written => simp [haction]

theorem any_resets_concat (action : Action) :
    (past ++ [action]).any (Action.resets name) =
      (past.any (Action.resets name) || action.resets name) := by
  rw [List.any_append, List.any_cons, List.any_nil, Bool.or_false]

theorem recount_write (value : Value) (ready : Bool) :
    recount (past ++ [.write name value ready]) =
      (recount past).map fun v => if v.name = name then { v with value, ready } else v := by
  induction past with
  | nil => rfl
  | cons action past ih =>
    rw [List.cons_append, recount, recount, ih, List.map_append]
    congr 1
    cases action with
    | declare other type =>
      have hkeeps : (Action.write name value ready).resets other = false := rfl
      rw [survivor?, survivor?, any_resets_concat, hkeeps, Bool.or_false]
      split
      · rfl
      · rw [remains, contents_concat, Action.writes?, remains]
        by_cases hother : name = other
        · simp [hother]
        · simp [hother, Ne.symm hother]
    | write | delete | get | read | isReady | contains | names | size => rfl

theorem recount_delete :
    recount (past ++ [.delete name]) = (recount past).filter fun v => v.name ≠ name := by
  induction past with
  | nil => rfl
  | cons action past ih =>
    rw [List.cons_append, recount, recount, ih, List.filter_append]
    congr 1
    cases action with
    | declare other type =>
      rw [survivor?, survivor?, any_resets_concat, Action.resets]
      by_cases hresets : past.any (Action.resets other) = true
      · simp [hresets]
      · by_cases hother : name = other
        · simp [hresets, hother, remains]
        · simp [hresets, hother, Ne.symm hother, remains, contents_concat, Action.writes?]
    | write | delete | get | read | isReady | contains | names | size => rfl

/-- A name that is not live can be declared, whatever became of it before. -/
theorem recount_declare (type : String) (hfree : name ∉ (recount past).map Variable.name) :
    recount (past ++ [.declare name type]) = recount past ++ [.fresh name type] := by
  induction past with
  | nil => rfl
  | cons action past ih =>
    rw [recount, List.map_append, List.mem_append, not_or] at hfree
    rw [List.cons_append, recount, recount, ih hfree.2, List.append_assoc]
    congr 1
    cases action with
    | declare other othertype =>
      rw [survivor?, survivor?, any_resets_concat, Action.resets]
      by_cases hresets : past.any (Action.resets other) = true
      · simp [hresets]
      · have hother : name ≠ other := by
          rintro rfl
          apply hfree.1
          simp [survivor?, hresets, remains]
        simp [hresets, hother, remains, contents_concat, Action.writes?]
    | write | delete | get | read | isReady | contains | names | size => rfl

theorem recount_inspect {action : Action} (h : action.inspects = true) :
    recount (past ++ [action]) = recount past := by
  have hresets : ∀ name, action.resets name = false := by
    intro name
    cases action with
    | declare | write | delete => cases h
    | get | read | isReady | contains | names | size => rfl
  have hwrites : ∀ name, action.writes? name = none := by
    intro name
    cases action with
    | declare | write | delete => cases h
    | get | read | isReady | contains | names | size => rfl
  induction past with
  | nil =>
    cases action with
    | declare | write | delete => cases h
    | get | read | isReady | contains | names | size => rfl
  | cons first past ih =>
    rw [List.cons_append, recount, recount, ih]
    congr 1
    cases first with
    | declare other type =>
      rw [survivor?, survivor?, any_resets_concat, hresets, Bool.or_false, remains, remains,
        contents_concat, hwrites, Option.getD_none]
    | write | delete | get | read | isReady | contains | names | size => rfl

end Concat

/-! ## Faults -/

section Faults

variable {store later : Store} {name type : String} {fault : Fault}

theorem declare_eq_ok_iff :
    store.declare name type = .ok later ↔
      name ∉ store.names ∧ later = ⟨store.entries ++ [.fresh name type]⟩ := by
  rw [declare, ← contains_iff]
  by_cases hname : store.contains name = true
  · simp [hname]
  · simp [hname, eq_comm]

theorem declare_eq_error_iff :
    store.declare name type = .error fault ↔
      name ∈ store.names ∧ fault = .unplaced (.alreadyDeclared name) := by
  rw [declare, ← contains_iff]
  by_cases hname : store.contains name = true
  · simp [hname, eq_comm]
  · simp [hname]

theorem delete_eq_ok_iff :
    store.delete name = .ok later ↔
      name ∈ store.names ∧ later = ⟨store.entries.filter fun v => v.name ≠ name⟩ := by
  rw [delete, ← contains_iff]
  by_cases hname : store.contains name = true
  · simp [hname, eq_comm]
  · simp [hname]

theorem delete_eq_error_iff :
    store.delete name = .error fault ↔
      name ∉ store.names ∧ fault = .unplaced (.unknownVariable name) := by
  rw [delete, ← contains_iff]
  by_cases hname : store.contains name = true
  · simp [hname]
  · simp [hname, eq_comm]

theorem map_eq_error_iff {α β : Type} {f : α → β} {result : Except Fault α} :
    result.map f = .error fault ↔ result = .error fault := by
  cases result with
  | error cause => simp [Except.map]
  | ok a => simp [Except.map]

theorem settle_eq_error_iff {answer : Answer} {result : Except Fault Store} :
    (store.settle answer result).2 = .error fault ↔ result = .error fault := by
  cases result with
  | error cause => simp [settle]
  | ok later => simp [settle]

/-- An action that needs a variable fails without it, and only then. -/
theorem act_eq_error_iff_of_needs {action : Action} (hneeds : action.needs? = some name) :
    (store.act action).2 = .error fault ↔
      name ∉ store.names ∧ fault = .unplaced (.unknownVariable name) := by
  have hget : store.get name = .error fault ↔
      name ∉ store.names ∧ fault = .unplaced (.unknownVariable name) := by
    rw [get_eq_error_iff, ← exists_find?_iff, Option.eq_none_iff_forall_ne_some, not_exists]
  cases action with
  | declare | contains | names | size => cases hneeds
  | write other value ready =>
    obtain rfl : other = name := Option.some.inj hneeds
    exact settle_eq_error_iff.trans write_eq_error_iff
  | delete other =>
    obtain rfl : other = name := Option.some.inj hneeds
    exact settle_eq_error_iff.trans delete_eq_error_iff
  | get other =>
    obtain rfl : other = name := Option.some.inj hneeds
    exact map_eq_error_iff.trans hget
  | read other =>
    obtain rfl : other = name := Option.some.inj hneeds
    exact map_eq_error_iff.trans (map_eq_error_iff.trans hget)
  | isReady other =>
    obtain rfl : other = name := Option.some.inj hneeds
    exact map_eq_error_iff.trans (map_eq_error_iff.trans hget)

end Faults

/-! ## Frames -/

section Frames

variable {store : Store} {action : Action}

theorem act_of_inspects (h : action.inspects = true) : (store.act action).1 = store := by
  cases action with
  | declare | write | delete => cases h
  | get | read | isReady | contains | names | size => rfl

theorem act_of_error {fault : Fault} (h : (store.act action).2 = .error fault) :
    (store.act action).1 = store := by
  by_cases hinspects : action.inspects = true
  · exact act_of_inspects hinspects
  · cases action with
    | declare name type =>
      rw [act] at h ⊢
      rw [settle_eq_error_iff.1 h, settle]
    | write name value ready =>
      rw [act] at h ⊢
      rw [settle_eq_error_iff.1 h, settle]
    | delete name =>
      rw [act] at h ⊢
      rw [settle_eq_error_iff.1 h, settle]
    | get | read | isReady | contains | names | size => exact absurd rfl hinspects

/-- An action on one variable leaves the others as they are, in their order. -/
theorem others_act {name : String} (hname : action.name? = some name) :
    (store.act action).1.others [name] = store.others [name] := by
  have hmem : name ∈ [name] := List.mem_singleton.2 rfl
  cases action with
  | declare other type =>
    obtain rfl : other = name := Option.some.inj hname
    rw [act]
    cases hdeclare : store.declare other type with
    | error fault => rfl
    | ok later => exact others_declare hdeclare hmem
  | write other value ready =>
    obtain rfl : other = name := Option.some.inj hname
    rw [act]
    cases hwrite : store.write other value ready with
    | error fault => rfl
    | ok later => exact others_write hwrite hmem
  | delete other =>
    obtain rfl : other = name := Option.some.inj hname
    rw [act]
    cases hdelete : store.delete other with
    | error fault => rfl
    | ok later => exact others_delete hdelete hmem
  | get | read | isReady | contains | names | size => rfl

end Frames

/-! ## Courses -/

/-- A store in use, and the actions that succeeded so far. -/
structure Course where
  store : Store
  past : List Action

namespace Course

/-- A new store. -/
def new : Course := ⟨.empty, []⟩

/-- Carries out an action, which is remembered if it succeeds. -/
def next (course : Course) (action : Action) : Course :=
  match course.store.act action with
  | (store, .ok _) => ⟨store, course.past ++ [action]⟩
  | (store, .error _) => ⟨store, course.past⟩

/-- Carries out actions in order on a new store, whether those before them failed or not. -/
def after (actions : List Action) : Course := actions.foldl next new

theorem next_of_ok {course : Course} {action : Action} {answer : Answer}
    (h : (course.store.act action).2 = .ok answer) :
    course.next action = ⟨(course.store.act action).1, course.past ++ [action]⟩ := by
  rw [next]
  split
  · next store answer hact => rw [hact]
  · next store fault hact =>
    rw [hact] at h
    cases h

/-- A failing action leaves no trace. -/
theorem next_of_error {course : Course} {action : Action} {fault : Fault}
    (h : (course.store.act action).2 = .error fault) : course.next action = course := by
  have hstore : (course.store.act action).1 = course.store := act_of_error h
  rw [next]
  split
  · next store answer hact =>
    rw [hact] at h
    cases h
  · next store fault hact =>
    rw [hact] at hstore
    cases hstore
    rfl

theorem next_inspect (course : Course) {action : Action} (h : action.inspects = true) :
    (course.next action).store = course.store ∧
      recount (course.next action).past = recount course.past := by
  have hact : (course.store.act action).1 = course.store := act_of_inspects h
  rw [next]
  split
  · next store answer hstore =>
    rw [hstore] at hact
    exact ⟨hact, recount_inspect course.past h⟩
  · next store fault hstore =>
    rw [hstore] at hact
    exact ⟨hact, rfl⟩

/-- An action changes the store as it changes what can be recounted of the past. -/
theorem entries_next {course : Course} (h : course.store.entries = recount course.past)
    (action : Action) :
    (course.next action).store.entries = recount (course.next action).past := by
  by_cases hinspects : action.inspects = true
  · obtain ⟨hstore, hpast⟩ := course.next_inspect hinspects
    rw [hstore, hpast, h]
  · cases action with
    | declare name type =>
      rw [next, act]
      cases hdeclare : course.store.declare name type with
      | error fault => exact h
      | ok later =>
        obtain ⟨hfree, rfl⟩ := declare_eq_ok_iff.1 hdeclare
        rw [Store.names, h] at hfree
        simp only [settle, h, recount_declare course.past name type hfree]
    | write name value ready =>
      rw [next, act]
      cases hwrite : course.store.write name value ready with
      | error fault => exact h
      | ok later =>
        obtain ⟨-, rfl⟩ := write_eq_ok_iff.1 hwrite
        simp only [settle, modify, h, recount_write]
    | delete name =>
      rw [next, act]
      cases hdelete : course.store.delete name with
      | error fault => exact h
      | ok later =>
        obtain ⟨-, rfl⟩ := delete_eq_ok_iff.1 hdelete
        simp only [settle, h, recount_delete]
    | get | read | isReady | contains | names | size => exact absurd rfl hinspects

/-- The variables of a store are those that can be recounted of its past. -/
theorem entries_after (actions : List Action) :
    (after actions).store.entries = recount (after actions).past := by
  have hall : ∀ course : Course, course.store.entries = recount course.past →
      (actions.foldl next course).store.entries = recount (actions.foldl next course).past := by
    induction actions with
    | nil => exact fun course h => h
    | cons action rest ih => exact fun course h => ih _ (entries_next h action)
  exact hall new rfl

section Told

variable {course : Course} (h : course.store.entries = recount course.past)
include h

theorem mem_names_iff {name : String} : name ∈ course.store.names ↔ Live course.past name := by
  rw [Store.names, h, List.mem_map]
  constructor
  · rintro ⟨v, hv, rfl⟩
    obtain ⟨since, hlive, -⟩ := mem_recount_iff.1 hv
    exact ⟨v.type, since, hlive⟩
  · rintro ⟨type, since, hlive⟩
    exact ⟨remains name type since, mem_recount_iff.2 ⟨since, hlive, rfl⟩, rfl⟩

theorem pairwise_names :
    course.store.names.Pairwise fun first second =>
      first ≠ second ∧ DeclaredBefore course.past first second := by
  rw [Store.names, h, List.pairwise_map]
  exact pairwise_recount course.past

theorem names_nodup : course.store.names.Nodup :=
  (pairwise_names h).imp fun hpair => hpair.1

/-- A live variable is found with the type of its last declaration and what was written last. -/
theorem find?_of_liveSince {name type : String} {since : List Action}
    (hlive : LiveSince course.past name type since) :
    course.store.find? name = some (remains name type since) := by
  rw [find?_eq_some_iff (names_nodup h), h]
  exact ⟨mem_recount_iff.2 ⟨since, hlive, rfl⟩, rfl⟩

end Told

/-- Of every use of a new store, failing actions included, the past tells the store. The names are
the live ones, each once and in the order of their last declarations, and what is asked about names
agrees with them. A live variable has the type of its last declaration and what was written last
since then. Declaring fails exactly for a live name, and what needs a variable exactly for one that
is not live. A failing action changes nothing, one that succeeds is the last of the past, and an
action on one variable leaves the others as they are, in their order. -/
theorem store_tells_history (actions : List Action) :
    let course := after actions
    (∀ name, name ∈ course.store.names ↔ Live course.past name) ∧
      course.store.names.Nodup ∧
      course.store.names.Pairwise (DeclaredBefore course.past) ∧
      course.store.act .names = (course.store, .ok (.names course.store.names)) ∧
      course.store.act .size = (course.store, .ok (.size course.store.names.length)) ∧
      (∀ name, course.store.act (.contains name) =
        (course.store, .ok (.truth (decide (name ∈ course.store.names))))) ∧
      (∀ name type since, LiveSince course.past name type since →
        course.store.act (.get name) =
            (course.store, .ok (.described ⟨name, type, (contents name since).1,
              (contents name since).2, false⟩)) ∧
          course.store.act (.read name) = (course.store, .ok (.value (contents name since).1)) ∧
          course.store.act (.isReady name) =
            (course.store, .ok (.truth (contents name since).2))) ∧
      (∀ name type fault, (course.store.act (.declare name type)).2 = .error fault ↔
        Live course.past name ∧ fault = .unplaced (.alreadyDeclared name)) ∧
      (∀ action name, action.needs? = some name →
        ∀ fault, (course.store.act action).2 = .error fault ↔
          ¬ Live course.past name ∧ fault = .unplaced (.unknownVariable name)) ∧
      (∀ action fault, (course.store.act action).2 = .error fault →
        (course.store.act action).1 = course.store ∧ after (actions ++ [action]) = course) ∧
      (∀ action answer, (course.store.act action).2 = .ok answer →
        after (actions ++ [action]) =
          ⟨(course.store.act action).1, course.past ++ [action]⟩) ∧
      ∀ action name, action.name? = some name →
        (course.store.act action).1.others [name] = course.store.others [name] := by
  intro course
  have htold : course.store.entries = recount course.past := entries_after actions
  have hlive : ∀ name, name ∈ course.store.names ↔ Live course.past name :=
    fun name => mem_names_iff htold
  have hnext : ∀ action, after (actions ++ [action]) = course.next action :=
    fun action => List.foldl_append
  refine ⟨hlive, names_nodup htold, (pairwise_names htold).imp fun hpair => hpair.2, rfl, ?_, ?_,
    ?_, ?_, ?_, ?_, ?_, ?_⟩
  · rw [act, size, Store.names, List.length_map]
  · intro name
    rw [act, ← Bool.decide_coe (course.store.contains name)]
    simp only [contains_iff]
  · intro name type since hsince
    have hget : course.store.get name = .ok (remains name type since) :=
      get_eq_ok_iff.2 (find?_of_liveSince htold hsince)
    refine ⟨?_, ?_, ?_⟩
    · rw [act, hget, Except.map, remains]
    · rw [act, Store.read, hget, Except.map, Except.map, remains]
    · rw [act, Store.isReady, hget, Except.map, Except.map, remains]
  · intro name type fault
    rw [← hlive name]
    exact settle_eq_error_iff.trans declare_eq_error_iff
  · intro action name hneeds fault
    rw [← hlive name]
    exact act_eq_error_iff_of_needs hneeds
  · intro action fault hfails
    exact ⟨act_of_error hfails, (hnext action).trans (next_of_error hfails)⟩
  · intro action answer hsucceeds
    exact (hnext action).trans (next_of_ok hsucceeds)
  · intro action name hname
    exact others_act hname

/-- Two declarations of a name that is in use and a write to one that is not are among these. -/
def reuse : List Action :=
  [.declare "x" "int", .write "x" (.int 5) true, .declare "x" "text", .declare "y" "int",
    .delete "x", .write "x" (.int 6) true, .declare "x" "text", .declare "x" "int",
    .write "x" (.text "7") false]

/-- The name that was deleted and declared again stands last, has its second type and nothing of its
first value, and cannot be declared a third time. -/
theorem store_tells_history_reuse :
    (after reuse).past =
        [.declare "x" "int", .write "x" (.int 5) true, .declare "y" "int", .delete "x",
          .declare "x" "text", .write "x" (.text "7") false] ∧
      (after reuse).store.names = ["y", "x"] ∧
      LiveSince (after reuse).past "x" "text" [.write "x" (.text "7") false] ∧
      (after reuse).store.act (.get "x") =
        ((after reuse).store, .ok (.described ⟨"x", "text", .text "7", false, false⟩)) ∧
      ((after reuse).store.act (.declare "x" "int")).2 =
        .error (.unplaced (.alreadyDeclared "x")) ∧
      ((after reuse).store.act (.read "z")).2 = .error (.unplaced (.unknownVariable "z")) := by
  have hpast : (after reuse).past =
      [.declare "x" "int", .write "x" (.int 5) true, .declare "y" "int", .delete "x",
        .declare "x" "text", .write "x" (.text "7") false] := by
    decide +kernel
  have hsince : LiveSince (after reuse).past "x" "text" [.write "x" (.text "7") false] := by
    refine ⟨⟨[.declare "x" "int", .write "x" (.int 5) true, .declare "y" "int", .delete "x"],
      hpast⟩, ?_, ?_⟩
    · intro other
      simp
    · simp
  obtain ⟨hlive, -, -, -, -, -, hcontents, hdeclare, hneeds, -⟩ := store_tells_history reuse
  have hz : ¬ Live (after reuse).past "z" := by
    rw [← hlive]
    decide +kernel
  exact ⟨hpast, by decide +kernel, hsince, (hcontents _ _ _ hsince).1,
    (hdeclare "x" "int" _).2 ⟨⟨_, _, hsince⟩, rfl⟩, (hneeds (.read "z") "z" rfl _).2 ⟨hz, rfl⟩⟩

end Course

end Store

end Dataflow
