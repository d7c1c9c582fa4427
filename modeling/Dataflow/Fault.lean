import Dataflow.Value

/-!
# Faults

Everything that can be wrong with a program, its run or its settings. A `Fault` is a cause together
with the source line it is attributed to, once one is known; `Cause.code` is the stable code of a
cause, `Cause.message` its wording, and `Fault.render` the full line shown to a user.
-/

set_option autoImplicit false

namespace Dataflow

/-- What went wrong. -/
inductive Cause where
  | stated (message : String)
  | alreadyDeclared (name : String)
  | unknownVariable (name : String)
  | unknownInstruction (token : String)
  | malformedInstruction (line reason : String)
  | unknownFunction (name : String)
  | alreadyInDefinition (name : String)
  | notInDefinition (line : String)
  | unterminatedDefinition (name : String)
  | duplicateFunction (name : String)
  | invalidOperand (name : String) (value : Value)
  | intrinsicArity (name : String) (expected got : Nat)
  | deadlocked (queued : Nat)
  | dispatchLimit (limit : Int)
  | invalidEncoding (path reason : String)
  | invalidSettings (field reason : String)
  deriving DecidableEq, Repr

namespace Cause

/-- The stable code of a cause. -/
def code : Cause → String
  | stated _ => "AEOLIS_ERROR"
  | alreadyDeclared _ => "ALREADY_DECLARED"
  | unknownVariable _ => "UNKNOWN_VARIABLE"
  | unknownInstruction _ => "UNKNOWN_INSTRUCTION"
  | malformedInstruction _ _ => "MALFORMED_INSTRUCTION"
  | unknownFunction _ => "UNKNOWN_FUNCTION"
  | alreadyInDefinition _ => "ALREADY_IN_DEFINITION"
  | notInDefinition _ => "NOT_IN_DEFINITION"
  | unterminatedDefinition _ => "UNTERMINATED_DEFINITION"
  | duplicateFunction _ => "DUPLICATE_FUNCTION"
  | invalidOperand _ _ => "INVALID_OPERAND"
  | intrinsicArity _ _ _ => "INTRINSIC_ARITY"
  | deadlocked _ => "DEADLOCKED"
  | dispatchLimit _ => "DISPATCH_LIMIT"
  | invalidEncoding _ _ => "INVALID_ENCODING"
  | invalidSettings _ _ => "INVALID_SETTINGS"

/-- The wording of a cause. -/
def message : Cause → String
  | stated message => message
  | alreadyDeclared name => "Variable '" ++ name ++ "' already declared"
  | unknownVariable name => "No such variable '" ++ name ++ "'"
  | unknownInstruction token => "Unknown instruction '" ++ token ++ "'"
  | malformedInstruction line reason => "Malformed instruction '" ++ line ++ "': " ++ reason
  | unknownFunction name => "No such function '" ++ name ++ "'"
  | alreadyInDefinition name => "Cannot open a definition while '" ++ name ++ "' is still open"
  | notInDefinition line => "Line outside of any definition: '" ++ line ++ "'"
  | unterminatedDefinition name => "Definition '" ++ name ++ "' is never closed with '---'"
  | duplicateFunction name => "Function '" ++ name ++ "' defined more than once"
  | invalidOperand name value => "Variable '" ++ name ++ "' holds non-integer value " ++ value.shown
  | intrinsicArity name expected got =>
    "Intrinsic '" ++ name ++ "' needs " ++ Nat.repr expected ++ " bindings, got " ++ Nat.repr got
  | deadlocked queued => "No runnable call with " ++ Nat.repr queued ++ " queued"
  | dispatchLimit limit => "Dispatch limit of " ++ Text.writeInt limit ++ " exceeded"
  | invalidEncoding path reason => "IL file '" ++ path ++ "' is not valid UTF-8: " ++ reason
  | invalidSettings field reason => "Setting '" ++ field ++ "': " ++ reason

end Cause

/-- A cause and the source line it is attributed to. -/
structure Fault where
  cause : Cause
  line : Option Int
  deriving DecidableEq, Repr

namespace Fault

/-- A cause that no line is known for. -/
def unplaced (cause : Cause) : Fault := ⟨cause, none⟩

/-- A cause on a line. -/
def onLine (cause : Cause) (line : Int) : Fault := ⟨cause, some line⟩

/-- Attributes a fault to a line, unless it already has one. -/
def atLine (fault : Fault) (line : Int) : Fault :=
  { fault with line := fault.line <|> some line }

/-- The full line for a user: code, wording and place. -/
def render (fault : Fault) : String :=
  "[" ++ fault.cause.code ++ "] " ++ fault.cause.message ++
    match fault.line with
    | some line => " (line " ++ Text.writeInt line ++ ")"
    | none => ""

end Fault

end Dataflow
