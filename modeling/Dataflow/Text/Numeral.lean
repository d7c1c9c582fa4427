import Dataflow.Text.Blank
import Dataflow.Text.DecimalDigit

/-!
# Integer numerals

Reading and writing integers in decimal. A numeral may have margins around it, one sign, decimal
digits of any script in any mixture, and single underscores between digits; it may have at most
`digitLimit` digits, leading zeros included. Written numerals are plain ASCII.
-/

set_option autoImplicit false

namespace Dataflow.Text

/-- The most digits that a numeral may have, in reading and in printing. -/
def digitLimit : Nat := 4300

/-! ## Reading -/

/-- The digits of a run in which single underscores may stand between two digits. -/
def readDigits (digit? : Char → Option Nat) : List Char → Option (List Nat)
  | [] => none
  | [c] => (digit? c).map ([·])
  | c :: '_' :: rest =>
    match digit? c, readDigits digit? rest with
    | some d, some ds => some (d :: ds)
    | _, _ => none
  | c :: rest =>
    match digit? c, readDigits digit? rest with
    | some d, some ds => some (d :: ds)
    | _, _ => none

/-- The number that a list of decimal digits denotes, most significant digit first. -/
def ofDigits (digits : List Nat) : Nat :=
  digits.foldl (fun n d => 10 * n + d) 0

/-- Splits off one sign; the flag tells a minus. -/
def readSign : List Char → Bool × List Char
  | '-' :: rest => (true, rest)
  | '+' :: rest => (false, rest)
  | rest => (false, rest)

/-- A natural number with a sign. -/
def signed (negative : Bool) (n : Nat) : Int :=
  if negative then -n else n

/-- The integer that a text denotes, if it is a numeral. -/
def readInt (text : String) : Option Int :=
  let (negative, body) := readSign (trimMargin text.toList)
  match readDigits decimalDigit? body with
  | some digits =>
    if digits.length ≤ digitLimit then some (signed negative (ofDigits digits)) else none
  | none => none

/-! ## Writing -/

/-- The decimal numeral of an integer. -/
def writeInt : Int → String
  | .ofNat n => Nat.repr n
  | .negSucc n => "-" ++ Nat.repr (n + 1)

/-- Whether the numeral of an integer keeps to the digit limit. -/
def withinDigitLimit (n : Int) : Bool :=
  n.natAbs < Nat.pow 10 digitLimit

/-! ## Examples -/

example : readInt " -1_0 " = some (-10) := by decide +kernel

example : readInt "1__0" = none ∧ readInt "_1" = none ∧ readInt "+ 1" = none := by decide +kernel

example : readInt "٣1" = some 31 := by decide +kernel

end Dataflow.Text
