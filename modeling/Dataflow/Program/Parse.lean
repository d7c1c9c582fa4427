import Dataflow.Instruction.Decode
import Dataflow.Program
import Dataflow.Text.Lines

/-!
# Reading programs

A program text is a sequence of blocks: a header `- name`, the lines of the body, and a line
`---`. A `Reader` holds the functions read so far and the definition that is open; `Reader.next`
takes one numbered line, and `Reader.feed` takes lines until the first fault. `Program.parse`
reads all lines of a program, and `Program.Reading` also keeps the functions that were complete
before a fault.
-/

set_option autoImplicit false

namespace Dataflow

/-- The first word of a header. -/
def headerMark : String := "-"

/-- The only word of a terminator. -/
def terminatorMark : String := "---"

/-- A definition whose terminator has not been read. -/
structure OpenDefinition where
  name : String
  line : Nat
  lines : List String
  body : List Statement
  deriving DecidableEq, Repr

namespace OpenDefinition

/-- The definition that a header opens. -/
def start (name : String) (line : Nat) : OpenDefinition := ⟨name, line, [], []⟩

/-- Appends a body line and its statement. -/
def append (definition : OpenDefinition) (source : String) (statement : Statement) :
    OpenDefinition :=
  { definition with
    lines := definition.lines ++ [source]
    body := definition.body ++ [statement] }

/-- The function that a terminator completes. -/
def close (definition : OpenDefinition) : Function :=
  ⟨definition.name, definition.lines, definition.body, definition.line⟩

end OpenDefinition

/-- What has been read of a program. -/
structure Reader where
  functions : List Function
  current : Option OpenDefinition
  deriving DecidableEq, Repr

namespace Reader

/-- Nothing read. -/
def start : Reader := ⟨[], none⟩

/-- Adds a complete function, whose name must be new. -/
def register (reader : Reader) (f : Function) : Except Fault Reader :=
  if reader.functions.any fun g => g.name = f.name then
    .error (.onLine (.duplicateFunction f.name) f.line)
  else .ok ⟨reader.functions ++ [f], none⟩

/-- Reads a line that starts with the header mark. -/
def header (reader : Reader) (source : String) (line : Nat) : Except Fault Reader :=
  match reader.current with
  | some definition => .error (.onLine (.alreadyInDefinition definition.name) line)
  | none =>
    match Text.words source with
    | [_, name] => .ok { reader with current := some (.start name line) }
    | _ => .error (.onLine (.malformedInstruction source "definition header is '- <name>'") line)

/-- Reads a line that starts with the terminator mark. -/
def terminator (reader : Reader) (source : String) (line : Nat) : Except Fault Reader :=
  match reader.current with
  | none => .error (.onLine (.notInDefinition source) line)
  | some definition =>
    match Text.words source with
    | [_] => reader.register definition.close
    | _ =>
      .error (.onLine (.malformedInstruction source "definition terminator takes no operands") line)

/-- Reads a body line. -/
def bodyLine (reader : Reader) (source : String) (line : Nat) : Except Fault Reader :=
  match reader.current with
  | none => .error (.onLine (.notInDefinition source) line)
  | some definition =>
    match Statement.decode source line with
    | .ok statement => .ok { reader with current := some (definition.append source statement) }
    | .error fault => .error fault

/-- Reads one line of a given number. -/
def next (reader : Reader) (source : String) (line : Nat) : Except Fault Reader :=
  let first := (Text.words source).headD ""
  if first = headerMark then reader.header source line
  else if first = terminatorMark then reader.terminator source line
  else reader.bodyLine source line

/-- Reads numbered lines up to the first fault; the reader is the one before the faulty line. -/
def feed (reader : Reader) : List (String × Nat) → Reader × Option Fault
  | [] => (reader, none)
  | (source, line) :: rest =>
    match reader.next source line with
    | .ok reader => reader.feed rest
    | .error fault => (reader, some fault)

/-- The fault of a text that ends here. -/
def endFault (reader : Reader) : Option Fault :=
  reader.current.map fun definition => .unplaced (.unterminatedDefinition definition.name)

end Reader

namespace Program

/-- The lines of a program with their numbers, counted from 1, without the blank ones if they are to
be skipped. -/
def numbered (skipBlank : Bool) (lines : List String) : List (String × Nat) :=
  (lines.zipIdx 1).filter fun (source, _) => !(skipBlank && (Text.words source).isEmpty)

/-- The complete functions that were read, and the fault that ended reading, if any. -/
structure Reading where
  functions : List Function
  fault : Option Fault
  deriving DecidableEq, Repr

/-- Reads the lines of a program. -/
def read (skipBlank : Bool) (lines : List String) : Reading :=
  match Reader.start.feed (numbered skipBlank lines) with
  | (reader, some fault) => ⟨reader.functions, some fault⟩
  | (reader, none) => ⟨reader.functions, reader.endFault⟩

/-- The program that lines denote, or the first fault in them. -/
def parse (skipBlank : Bool) (lines : List String) : Except Fault Program :=
  match read skipBlank lines with
  | ⟨functions, none⟩ => .ok ⟨functions⟩
  | ⟨_, some fault⟩ => .error fault

/-- The program that a text denotes. -/
def parseText (skipBlank : Bool) (text : String) : Except Fault Program :=
  parse skipBlank (Text.lines text)

end Program

end Dataflow
