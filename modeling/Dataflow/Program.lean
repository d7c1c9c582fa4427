import Dataflow.Fault
import Dataflow.Instruction

/-!
# Programs

A program is a list of named functions in the order of their definitions. Every name is defined
once, and a program that can run defines `entryName`.
-/

set_option autoImplicit false

namespace Dataflow

/-- The function with which a run starts. -/
def entryName : String := "_entry"

/-- A named block of statements; `lines` are its source lines and `line` is the number of its
header. -/
structure Function where
  name : String
  lines : List String
  body : List Statement
  line : Nat
  deriving DecidableEq, Repr

/-- The functions of a program in the order of their definitions. -/
structure Program where
  functions : List Function
  deriving DecidableEq, Repr

namespace Program

/-- The function of a given name. -/
def find? (program : Program) (name : String) : Option Function :=
  program.functions.find? fun f => f.name = name

/-- Whether a name is defined. -/
def defines (program : Program) (name : String) : Bool :=
  (program.find? name).isSome

/-- The function of a given name, which must be defined. -/
def function (program : Program) (name : String) : Except Fault Function :=
  match program.find? name with
  | some f => .ok f
  | none => .error (.unplaced (.unknownFunction name))

/-- The function with which a run starts, which must be defined. -/
def entry (program : Program) : Except Fault Function :=
  program.function entryName

/-- The names of the functions in the order of their definitions. -/
def names (program : Program) : List String :=
  program.functions.map Function.name

end Program

end Dataflow
