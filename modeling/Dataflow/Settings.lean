import Dataflow.Fault
import Dataflow.Text.UpperCase

/-!
# Settings

A run is governed by a log level, a bound on dispatches and a flag that skips blank lines. Each
takes its raw value from the overrides, else from the environment, else from a default, and is
then checked on its own; `Settings.load` reports the first field that fails, in this order.
-/

set_option autoImplicit false

namespace Dataflow

/-! ## Raw values -/

/-- A raw value before it is checked. Environment values are texts; overrides may be of any kind. -/
inductive RawSetting where
  | null
  | text (content : String)
  | int (n : Int)
  | bool (b : Bool)
  /-- A finite floating-point number, by its exact value. -/
  | real (q : Rat)
  /-- An infinite floating-point number. -/
  | infinite
  /-- A list or an object. -/
  | compound
  deriving DecidableEq, Repr

/-- Why a raw value is turned down. -/
inductive SettingFlaw where
  | notText
  | unknownLevel (word : String)
  | notInteger
  | notNumeral
  | fractional
  | notFinite
  | oversized
  | negative
  | notBoolean
  | unclearBoolean
  deriving DecidableEq, Repr

/-- The wording of a flaw. -/
def SettingFlaw.message : SettingFlaw → String
  | notText => "Input should be a valid string"
  | unknownLevel word => "Value error, Unknown log level '" ++ word ++ "'"
  | notInteger => "Input should be a valid integer"
  | notNumeral => "Input should be a valid integer, unable to parse string as an integer"
  | fractional => "Input should be a valid integer, got a number with a fractional part"
  | notFinite => "Input should be a finite number"
  | oversized => "Unable to parse input string as an integer, exceeded maximum size"
  | negative => "Input should be greater than or equal to 0"
  | notBoolean => "Input should be a valid boolean"
  | unclearBoolean => "Input should be a valid boolean, unable to interpret input"

/-! ## Log levels -/

/-- How much a run reports. -/
inductive LogLevel where
  | critical
  | fatal
  | error
  | warn
  | warning
  | info
  | debug
  | notset
  deriving DecidableEq, Repr

namespace LogLevel

/-- The word for a log level. -/
def word : LogLevel → String
  | critical => "CRITICAL"
  | fatal => "FATAL"
  | error => "ERROR"
  | warn => "WARN"
  | warning => "WARNING"
  | info => "INFO"
  | debug => "DEBUG"
  | notset => "NOTSET"

/-- All log levels. -/
def all : List LogLevel := [critical, fatal, error, warn, warning, info, debug, notset]

/-- The log level that a word names. -/
def ofWord? (word : String) : Option LogLevel :=
  all.find? fun level => level.word = word

/-- Whether the journal is reported at a level. -/
def traces : LogLevel → Bool
  | debug | notset => true
  | _ => false

/-- Checks a raw value: a text that names a level in any letter case. -/
def ofRaw : RawSetting → Except SettingFlaw LogLevel
  | .text content =>
    match ofWord? (Text.upperCase content) with
    | some level => .ok level
    | none => .error (.unknownLevel (Text.upperCase content))
  | _ => .error .notText

end LogLevel

/-! ## Bounds -/

/-- The number of 64-bit signed integers that are not negative. -/
def wordHalf : Int := 0x8000000000000000

/-- Whether an integer is a 64-bit signed one. -/
def fitsWord (n : Int) : Bool :=
  -wordHalf ≤ n && n < wordHalf

/-- Whether the value of a floating-point number is taken as an integer: it is whole and lies
strictly between the two ends of the 64-bit signed range. -/
def isWholeWord (q : Rat) : Bool :=
  q.den = 1 && fitsWord q.num && q.num ≠ -wordHalf

/-- Leaves out one plus in front, which must not precede a minus. -/
def dropPlus : List Char → Option (List Char)
  | '+' :: '-' :: _ => none
  | '+' :: rest => some rest
  | numeral => some numeral

/-- Splits off a minus. -/
def splitMinus : List Char → Bool × List Char
  | '-' :: rest => (true, rest)
  | rest => (false, rest)

/-- Leaves out further zeros and underscores behind `last`, which is one of them. What follows
must be another digit or a minus, or a point before which `last` stays; at the end only `last`
stays. -/
def dropZerosBehind (last : Char) : List Char → Option (List Char)
  | [] => some [last]
  | c :: rest =>
    if c = '0' ∨ c = '_' then dropZerosBehind c rest
    else if c.isDigit ∨ c = '-' then some (c :: rest)
    else if c = '.' then some (last :: c :: rest)
    else none

/-- Leaves out leading zeros, with the underscores among them, of a numeral that starts with a
digit. -/
def dropLeadingZeros : List Char → Option (List Char)
  | '0' :: rest => dropZerosBehind '0' rest
  | c :: rest => if c.isDigit then some (c :: rest) else none
  | [] => none

/-- Leaves out a point that is followed by zeros only, and at least by one. -/
def dropZeroFraction (numeral : List Char) : List Char :=
  match numeral.dropWhile (· ≠ '.') with
  | _ :: '0' :: zeros =>
    if zeros.all (· = '0') then numeral.takeWhile (· ≠ '.') else numeral
  | _ => numeral

/-- Whether two underscores stand next to each other. -/
def hasDoubleUnderscore : List Char → Bool
  | '_' :: '_' :: _ => true
  | _ :: rest => hasDoubleUnderscore rest
  | [] => false

/-- Leaves out underscores, if they are single and none stands at an end. -/
def dropUnderscores (numeral : List Char) : List Char :=
  if numeral.head? = some '_' ∨ numeral.getLast? = some '_' ∨ hasDoubleUnderscore numeral then
    numeral
  else numeral.filter (· ≠ '_')

/-- Reads an optional minus and ASCII digits of which the first is no zero, or a single zero. The
digit limit, which leaves the sign out, is checked before what follows the digits. -/
def readStrict (numeral : List Char) : Except SettingFlaw Int :=
  let (negative, body) := splitMinus numeral
  let digits := body.takeWhile Char.isDigit
  if digits.head? = some '0' then if body = ['0'] then .ok 0 else .error .notNumeral
  else if digits = [] then .error .notNumeral
  else if Text.digitLimit < digits.length then .error .oversized
  else
    match body.mapM Text.asciiDigit? with
    | some ds => .ok (Text.signed negative (Text.ofDigits ds))
    | none => .error .notNumeral

/-- The strict form of a numeral behind its sign: leading zeros, a fraction of zeros and single
underscores are left out in this order, and the sign is put back. -/
def tidyUnsigned (negative : Bool) (numeral : List Char) : Option (List Char) :=
  (dropLeadingZeros numeral).map fun rest =>
    let plain := dropUnderscores (dropZeroFraction rest)
    if negative then '-' :: plain else plain

/-- The strict form of a numeral: margins and a plus are left out, and what is behind a minus is
tidied on its own. -/
def tidyNumeral (numeral : List Char) : Option (List Char) :=
  (dropPlus (Text.trimMargin numeral)).bind fun rest =>
    let (negative, body) := splitMinus rest
    tidyUnsigned negative body

/-- Reads a text as a whole number, as it stands or else tidied. Only a text that is too long as it
stands is reported as such; one that becomes so by tidying is no numeral. -/
def readWhole (content : String) : Except SettingFlaw Int :=
  match readStrict content.toList with
  | .ok n => .ok n
  | .error .oversized => .error .oversized
  | .error _ =>
    match (tidyNumeral content.toList).map readStrict with
    | some (.ok n) => .ok n
    | _ => .error .notNumeral

/-- Reads a raw value as an integer. -/
def RawSetting.toInt : RawSetting → Except SettingFlaw Int
  | .int n => .ok n
  | .bool b => .ok (if b then 1 else 0)
  | .text content => readWhole content
  | .real q =>
    if q.den ≠ 1 then .error .fractional
    else if isWholeWord q then .ok q.num
    else .error .oversized
  | .infinite => .error .notFinite
  | _ => .error .notInteger

/-- Checks a raw value: an integer that is not negative. -/
def RawSetting.toBound (raw : RawSetting) : Except SettingFlaw Nat :=
  match raw.toInt with
  | .error flaw => .error flaw
  | .ok n => if n < 0 then .error .negative else .ok n.toNat

/-! ## Flags -/

/-- The flag that a word stands for, in any letter case. -/
def flagOfWord? (content : String) : Option Bool :=
  let word := String.ofList (content.toList.map Char.toLower)
  if word ∈ ["0", "off", "f", "false", "n", "no"] then some false
  else if word ∈ ["1", "on", "t", "true", "y", "yes"] then some true
  else none

/-- The flag that a number stands for. -/
def flagOfInt? (n : Int) : Option Bool :=
  if n = 0 then some false else if n = 1 then some true else none

/-- Checks a flag that was found, if one was. -/
def clearFlag : Option Bool → Except SettingFlaw Bool
  | some b => .ok b
  | none => .error .unclearBoolean

/-- Checks a raw value: a flag, a word for one, or one of the numbers 0 and 1. -/
def RawSetting.toFlag : RawSetting → Except SettingFlaw Bool
  | .bool b => .ok b
  | .text content => clearFlag (flagOfWord? content)
  | .int n => if fitsWord n then clearFlag (flagOfInt? n) else .error .notBoolean
  | .real q => if isWholeWord q then clearFlag (flagOfInt? q.num) else .error .notBoolean
  | _ => .error .notBoolean

/-! ## Loading -/

/-- The settings of a run; a bound of 0 stands for none. -/
structure Settings where
  logLevel : LogLevel
  maxDispatches : Nat
  skipBlankLines : Bool
  deriving DecidableEq, Repr

/-- The environment variables that a run looks at. -/
structure Environment where
  logLevel : Option String
  maxDispatches : Option String
  skipBlankLines : Option String
  deriving DecidableEq, Repr

namespace Environment

/-- The variable that holds the log level. -/
def logLevelVariable : String := "AEOLIS_LOG_LEVEL"

/-- The variable that holds the bound on dispatches. -/
def maxDispatchesVariable : String := "AEOLIS_MAX_DISPATCHES"

/-- The variable that holds the flag for blank lines. -/
def skipBlankLinesVariable : String := "AEOLIS_SKIP_BLANK_LINES"

/-- The environment behind a look-up of variables. -/
def ofLookup (lookup : String → Option String) : Environment :=
  ⟨lookup logLevelVariable, lookup maxDispatchesVariable, lookup skipBlankLinesVariable⟩

end Environment

/-- Raw values that take precedence over the environment. -/
structure Overrides where
  logLevel : Option RawSetting
  maxDispatches : Option RawSetting
  skipBlankLines : Option RawSetting
  deriving DecidableEq, Repr

/-- No overrides. -/
def Overrides.none : Overrides := ⟨.none, .none, .none⟩

/-- The overrides behind a look-up of fields; other fields are not looked at. -/
def Overrides.ofLookup (lookup : String → Option RawSetting) : Overrides :=
  ⟨lookup "log_level", lookup "max_dispatches", lookup "skip_blank_lines"⟩

/-- The raw value of a field: the override, else the environment's text, else the default. -/
def rawSetting (override : Option RawSetting) (environment : Option String) (default : String) :
    RawSetting :=
  override.getD (.text (environment.getD default))

/-- Names the field of a flaw. -/
def inField {α : Type} (field : String) : Except SettingFlaw α → Except Fault α
  | .ok a => .ok a
  | .error flaw => .error (.unplaced (.invalidSettings field flaw.message))

/-- The settings under an environment and overrides, or the first field that fails. -/
def Settings.load (environment : Environment) (overrides : Overrides) : Except Fault Settings :=
  let level := rawSetting overrides.logLevel environment.logLevel "WARNING"
  let bound := rawSetting overrides.maxDispatches environment.maxDispatches "0"
  let skip := rawSetting overrides.skipBlankLines environment.skipBlankLines "false"
  match inField "log_level" (LogLevel.ofRaw level) with
  | .error fault => .error fault
  | .ok logLevel =>
    match inField "max_dispatches" bound.toBound with
    | .error fault => .error fault
    | .ok maxDispatches =>
      match inField "skip_blank_lines" skip.toFlag with
      | .error fault => .error fault
      | .ok skipBlankLines => .ok ⟨logLevel, maxDispatches, skipBlankLines⟩

end Dataflow
