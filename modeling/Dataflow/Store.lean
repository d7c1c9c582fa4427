import Dataflow.Fault

/-!
# The variable store

All variables of a run are global and kept in the order of their declarations. Declaring needs a
free name and everything else a declared one; an operation that faults leaves no store behind, so
the old one stays in use. A variable that is deleted and declared again goes to the end.
-/

set_option autoImplicit false

namespace Dataflow

/-- A variable: `ready` tells that calls may read it, `bound` that it is reserved. -/
structure Variable where
  name : String
  type : String
  value : Value
  ready : Bool
  bound : Bool
  deriving DecidableEq, Repr

/-- A variable as its declaration leaves it. -/
def Variable.fresh (name type : String) : Variable := ⟨name, type, .absent, false, false⟩

/-- The variables in the order of their declarations. -/
structure Store where
  entries : List Variable
  deriving DecidableEq, Repr

namespace Store

/-- No variables. -/
def empty : Store := ⟨[]⟩

/-- The names in the order of their declarations. -/
def names (store : Store) : List String :=
  store.entries.map Variable.name

/-- The number of variables. -/
def size (store : Store) : Nat :=
  store.entries.length

/-- The variable of a given name. -/
def find? (store : Store) (name : String) : Option Variable :=
  store.entries.find? fun v => v.name = name

/-- Whether a name is declared. -/
def contains (store : Store) (name : String) : Bool :=
  (store.find? name).isSome

/-- The variable of a given name, which must be declared. -/
def get (store : Store) (name : String) : Except Fault Variable :=
  match store.find? name with
  | some v => .ok v
  | none => .error (.unplaced (.unknownVariable name))

/-- The value of a variable. -/
def read (store : Store) (name : String) : Except Fault Value :=
  (store.get name).map Variable.value

/-- Whether a variable is ready. -/
def isReady (store : Store) (name : String) : Except Fault Bool :=
  (store.get name).map Variable.ready

/-- Declares a variable under a free name. -/
def declare (store : Store) (name type : String) : Except Fault Store :=
  if store.contains name then .error (.unplaced (.alreadyDeclared name))
  else .ok ⟨store.entries ++ [.fresh name type]⟩

/-- Changes the variable of a given name in its place. -/
def modify (store : Store) (name : String) (change : Variable → Variable) : Store :=
  ⟨store.entries.map fun v => if v.name = name then change v else v⟩

/-- Gives a variable a value and a readiness. -/
def write (store : Store) (name : String) (value : Value) (ready : Bool) : Except Fault Store :=
  match store.find? name with
  | some _ => .ok (store.modify name fun v => { v with value, ready })
  | none => .error (.unplaced (.unknownVariable name))

/-- Reserves a variable or lifts its reservation. -/
def setBound (store : Store) (name : String) (bound : Bool) : Except Fault Store :=
  match store.find? name with
  | some _ => .ok (store.modify name fun v => { v with bound })
  | none => .error (.unplaced (.unknownVariable name))

/-- Removes a variable. -/
def delete (store : Store) (name : String) : Except Fault Store :=
  if store.contains name then .ok ⟨store.entries.filter fun v => v.name ≠ name⟩
  else .error (.unplaced (.unknownVariable name))

/-! ## Names -/

/-- A name is declared when it is among the names. -/
theorem contains_iff (store : Store) (name : String) :
    store.contains name = true ↔ name ∈ store.names := by
  simp [contains, find?, names, List.find?_isSome]

/-- Changing a variable in its place keeps the names, if the change does. -/
theorem names_modify (store : Store) (name : String) {change : Variable → Variable}
    (h : ∀ v, (change v).name = v.name) : (store.modify name change).names = store.names := by
  simp only [modify, names, List.map_map]
  refine List.map_congr_left fun v _ => ?_
  rw [Function.comp_apply]
  split
  · exact h v
  · rfl

/-- Declaring appends a name. -/
theorem names_declare {store store' : Store} {name type : String}
    (h : store.declare name type = .ok store') : store'.names = store.names ++ [name] := by
  rw [declare] at h
  split at h
  · simp at h
  · obtain rfl := Except.ok.inj h
    simp [names, Variable.fresh]

/-- Writing keeps the names. -/
theorem names_write {store store' : Store} {name : String} {value : Value} {ready : Bool}
    (h : store.write name value ready = .ok store') : store'.names = store.names := by
  rw [write] at h
  split at h
  · obtain rfl := Except.ok.inj h
    exact names_modify store name fun _ => rfl
  · simp at h

/-- Deleting removes a name. -/
theorem names_delete {store store' : Store} {name : String}
    (h : store.delete name = .ok store') : store'.names = store.names.filter (· ≠ name) := by
  rw [delete] at h
  split at h
  · obtain rfl := Except.ok.inj h
    simp [names, List.filter_map, Function.comp_def]
  · simp at h

end Store

end Dataflow
