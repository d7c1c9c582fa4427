import Dataflow.Call

/-!
# Instructions

The six instructions of a function body. Each is written as a keyword followed by a fixed number of
words; `Instruction.keyword` and `Instruction.operands` give that form, `Instruction.render` the
canonical line. A `Statement` is an instruction together with the line it was read from.
-/

set_option autoImplicit false

namespace Dataflow

/-- The first word of an instruction. -/
inductive Keyword where
  | declare
  | assign
  | bind
  | call
  | copy
  | delete
  deriving DecidableEq, Repr

namespace Keyword

/-- The spelling of a keyword. -/
def word : Keyword → String
  | declare => "var"
  | assign => "assg"
  | bind => "bind"
  | call => "call"
  | copy => "copy"
  | delete => "del"

/-- All keywords. -/
def all : List Keyword := [declare, assign, bind, call, copy, delete]

/-- The keyword that a word spells. -/
def ofWord? (word : String) : Option Keyword :=
  all.find? fun keyword => keyword.word = word

/-- How many operands follow a keyword. -/
def arity : Keyword → Nat
  | declare => 2
  | assign => 2
  | bind => 2
  | call => 1
  | copy => 2
  | delete => 1

end Keyword

/-- One step of a function body. -/
inductive Instruction where
  /-- Brings a variable of a given type into being. -/
  | declare (name type : String)
  /-- Stores a literal. -/
  | assign (name literal : String)
  /-- Binds a variable for the next call. -/
  | bind (binding : Binding)
  /-- Queues a call with the variables bound so far. -/
  | call (function : String)
  /-- Gives one variable the value and readiness of another. -/
  | copy (target source : String)
  /-- Removes a variable. -/
  | delete (name : String)
  deriving DecidableEq, Repr

namespace Instruction

/-- The keyword of an instruction. -/
def keyword : Instruction → Keyword
  | declare _ _ => .declare
  | assign _ _ => .assign
  | bind _ => .bind
  | call _ => .call
  | copy _ _ => .copy
  | delete _ => .delete

/-- The words behind the keyword, in order. -/
def operands : Instruction → List String
  | declare name type => [name, type]
  | assign name literal => [name, literal]
  | bind b => [b.direction.word, b.name]
  | call function => [function]
  | copy target source => [target, source]
  | delete name => [name]

/-- The canonical line of an instruction: its words with single spaces. -/
def render (instruction : Instruction) : String :=
  " ".intercalate (instruction.keyword.word :: instruction.operands)

end Instruction

/-- An instruction with the line it was read from and that line's number; number 0 stands for a
statement that comes from no source. -/
structure Statement where
  instruction : Instruction
  source : String
  line : Int
  deriving DecidableEq, Repr

/-- The text of a statement: its source line, or the canonical line if it has none. -/
def Statement.text (statement : Statement) : String :=
  if statement.source = "" then statement.instruction.render else statement.source

end Dataflow
