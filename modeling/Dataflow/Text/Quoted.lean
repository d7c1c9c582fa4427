import Dataflow.Text.Printable

/-!
# Quoted text

How a text is shown inside a message: between single quotes, or between double quotes when it holds
a single quote and no double quote. The quote in use and the backslash are escaped, and every
character that is not printable is written by its number.
-/

set_option autoImplicit false

namespace Dataflow.Text

/-- Lower-case hexadecimal digits of a number, padded with zeros to a least width. -/
def hexDigits (width n : Nat) : List Char :=
  let digits := Nat.toDigits 16 n
  List.replicate (width - digits.length) '0' ++ digits

/-- An unprintable character by its number, in the shortest of the three forms that fit. -/
def numericEscape (n : Nat) : List Char :=
  if n < 0x100 then '\\' :: 'x' :: hexDigits 2 n
  else if n < 0x10000 then '\\' :: 'u' :: hexDigits 4 n
  else '\\' :: 'U' :: hexDigits 8 n

/-- How one character is shown between the given quotes. -/
def quotedChar (quote c : Char) : List Char :=
  if c = quote ∨ c = '\\' then ['\\', c]
  else if c = '\t' then ['\\', 't']
  else if c = '\n' then ['\\', 'n']
  else if c = '\r' then ['\\', 'r']
  else if isPrintable c then [c]
  else numericEscape c.toNat

/-- The quote that surrounds a text. -/
def quoteFor (text : List Char) : Char :=
  if '\'' ∈ text ∧ '"' ∉ text then '"' else '\''

/-- A text between quotes, with escapes. -/
def quoted (text : String) : String :=
  let quote := quoteFor text.toList
  String.ofList (quote :: text.toList.flatMap (quotedChar quote) ++ [quote])

/-! ## Examples -/

example : quoted "it's" = "\"it's\"" := by decide +kernel

example : quoted "a\n" = "'a\\n'" := by decide +kernel

end Dataflow.Text
