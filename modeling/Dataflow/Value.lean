import Dataflow.Text.Numeral
import Dataflow.Text.Quoted

/-!
# Values

What a variable can hold: nothing yet, a text, an integer of any size, or a truth value. Programs
write texts (the literals of their assignments) and integers (the sums they compute); truth values
only come from outside. `Value.toInt?` is the one coercion: a value as a summand.
-/

set_option autoImplicit false

namespace Dataflow

/-- The value of a variable. -/
inductive Value where
  | absent
  | text (content : String)
  | int (n : Int)
  | bool (b : Bool)
  deriving DecidableEq, Repr

namespace Value

/-- The value as a summand: a text counts if it is a numeral, a truth value as 0 or 1. -/
def toInt? : Value → Option Int
  | absent => none
  | text content => Text.readInt content
  | int n => some n
  | bool b => some (if b then 1 else 0)

/-- The word for a truth value. -/
def truthWord (b : Bool) : String :=
  if b then "True" else "False"

/-- The value as it is printed. -/
def plain : Value → String
  | absent => "None"
  | text content => content
  | int n => Text.writeInt n
  | bool b => truthWord b

/-- The value as it is shown in messages, where texts stand in quotes. -/
def shown : Value → String
  | text content => Text.quoted content
  | value => value.plain

/-- Whether the value can be printed: integers must keep to the digit limit. -/
def printable : Value → Bool
  | int n => Text.withinDigitLimit n
  | _ => true

end Value

end Dataflow
