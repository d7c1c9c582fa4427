import Dataflow.Fault
import Dataflow.Instruction
import Dataflow.Text.Blank

/-!
# Decoding instruction lines

`decode` reads one line as a statement. The first word must be a keyword, the number of words behind
it must be the keyword's arity, and the first operand of a binding must name a direction; the faults
are found in this order and carry the line's number.
-/

set_option autoImplicit false

namespace Dataflow

/-- What is wrong with a line whose keyword is known. -/
inductive Malformation where
  | operandCount (keyword : Keyword) (got : Nat)
  | direction (word : String)
  deriving DecidableEq, Repr

/-- The wording of a malformation. -/
def Malformation.message : Malformation → String
  | operandCount keyword got =>
    "'" ++ keyword.word ++ "' takes " ++ Nat.repr keyword.arity ++ " operand(s), got " ++
      Nat.repr got
  | direction word => "bind direction must be 'in' or 'out', got '" ++ word ++ "'"

namespace Instruction

/-- Reads the operands of a keyword. -/
def ofOperands (keyword : Keyword) (operands : List String) : Except Malformation Instruction :=
  match keyword, operands with
  | .declare, [name, type] => .ok (declare name type)
  | .assign, [name, literal] => .ok (assign name literal)
  | .bind, [word, name] =>
    match Direction.ofWord? word with
    | some direction => .ok (bind ⟨name, direction⟩)
    | none => .error (.direction word)
  | .call, [function] => .ok (call function)
  | .copy, [target, source] => .ok (copy target source)
  | .delete, [name] => .ok (delete name)
  | keyword, operands => .error (.operandCount keyword operands.length)

end Instruction

namespace Statement

/-- Reads one line as a statement. -/
def decode (source : String) (line : Int) : Except Fault Statement :=
  let tokens := Text.words source
  let first := tokens.headD ""
  match Keyword.ofWord? first with
  | none => .error (.onLine (.unknownInstruction first) line)
  | some keyword =>
    match Instruction.ofOperands keyword tokens.tail with
    | .ok instruction => .ok ⟨instruction, source, line⟩
    | .error flaw => .error (.onLine (.malformedInstruction source flaw.message) line)

/-- The same instruction without source line and number. -/
def bare (statement : Statement) : Statement :=
  { statement with source := "", line := 0 }

end Statement

end Dataflow
