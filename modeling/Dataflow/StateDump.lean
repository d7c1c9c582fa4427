import Dataflow.Machine.State
import Dataflow.Text.Quoted

/-!
# State dumps

The store as an ASCII JSON text: one object per variable under its name, variables and fields in
ascending order, indented by two. A store with an integer over the digit limit has no dump.
-/

set_option autoImplicit false

namespace Dataflow.StateDump

/-! ## Strings -/

/-- A unit of UTF-16 as an escape. -/
def unitEscape (n : Nat) : List Char :=
  '\\' :: 'u' :: Text.hexDigits 4 n

/-- A character by its number: one escape, or the two of a surrogate pair. -/
def charEscape (n : Nat) : List Char :=
  if n < 0x10000 then unitEscape n
  else
    unitEscape (0xD800 + (n - 0x10000) / 0x400) ++ unitEscape (0xDC00 + (n - 0x10000) % 0x400)

/-- One character inside a JSON string. -/
def jsonChar (c : Char) : List Char :=
  if c = '"' ∨ c = '\\' then ['\\', c]
  else if c = '\n' then ['\\', 'n']
  else if c = '\r' then ['\\', 'r']
  else if c = '\t' then ['\\', 't']
  else if c = '\x08' then ['\\', 'b']
  else if c = '\x0c' then ['\\', 'f']
  else if 0x20 ≤ c.toNat ∧ c.toNat ≤ 0x7E then [c]
  else charEscape c.toNat

/-- A JSON string. -/
def jsonString (text : String) : String :=
  String.ofList ('"' :: text.toList.flatMap jsonChar ++ ['"'])

/-! ## Values and variables -/

/-- The JSON word for a truth value. -/
def jsonBool (b : Bool) : String :=
  if b then "true" else "false"

/-- A value in JSON. -/
def jsonValue : Value → String
  | .absent => "null"
  | .text content => jsonString content
  | .int n => Text.writeInt n
  | .bool b => jsonBool b

/-- A field of a variable. -/
def field (name value : String) : String :=
  "    " ++ jsonString name ++ ": " ++ value

/-- A variable under its name. -/
def entry (v : Variable) : String :=
  "  " ++ jsonString v.name ++ ": \x7b\n" ++
    ",\n".intercalate
      [field "bound" (jsonBool v.bound), field "ready" (jsonBool v.ready),
        field "type" (jsonString v.type), field "value" (jsonValue v.value)] ++
    "\n  \x7d"

/-- The variables in ascending order of their names. -/
def sorted (store : Store) : List Variable :=
  store.entries.mergeSort fun v w => decide (v.name ≤ w.name)

/-- The text of a store. -/
def render (store : Store) : String :=
  match sorted store with
  | [] => "\x7b\x7d"
  | entries => "\x7b\n" ++ ",\n".intercalate (entries.map entry) ++ "\n\x7d"

/-- The dump of a store, if all its integers keep to the digit limit. -/
def dump (store : Store) : Except Refusal String :=
  if store.entries.all fun v => v.value.printable then .ok (render store)
  else .error .digitLimit

end Dataflow.StateDump
