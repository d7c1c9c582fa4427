import Dataflow.Path
import Dataflow.Text.Numeral
import Dataflow.Text.Quoted

/-!
# Command-line arguments

The arguments name one program file and up to four options; a fifth asks for help. An option may
be cut short as long as it stays recognisable, may carry its value behind an equals sign, and may
stand before or after the file; `--` ends the options. `Arguments.parse` first classifies every
argument on its own and then takes them in order, so that the first complaint in order is the one
reported. In the two points where releases of argparse differ, text behind `-h` and `--` as a value,
the earlier 3.11 releases are followed.
-/

set_option autoImplicit false

namespace Dataflow

/-! ## Options -/

/-- The options that can be given. -/
inductive OptionName where
  | help
  | trace
  | maxDispatches
  | skipBlankLines
  | dumpState
  deriving DecidableEq, Repr

namespace OptionName

/-- The spellings of the options, in the order in which they are offered. -/
def spellings : List (String × OptionName) :=
  [("-h", help), ("--help", help), ("--trace", trace), ("--max-dispatches", maxDispatches),
    ("--skip-blank-lines", skipBlankLines), ("--dump-state", dumpState)]

/-- The option of a full spelling. -/
def ofSpelling? (spelling : String) : Option OptionName :=
  spellings.lookup spelling

/-- How an option is named in complaints. -/
def title (name : OptionName) : String :=
  "/".intercalate ((spellings.filter fun s => s.2 = name).map Prod.fst)

/-- Whether an option needs a value. -/
def takesValue : OptionName → Bool
  | maxDispatches => true
  | _ => false

end OptionName

/-- The value of the bound on dispatches. -/
inductive BoundValue where
  /-- An integer. -/
  | number (n : Int)
  /-- Two dashes, which never count as a value and so leave an empty one. Earlier 3.11 releases of
  argparse read them like this; 3.11.10 turns them down as a number. -/
  | empty
  deriving DecidableEq, Repr

/-- What a command line asks for. -/
structure Options where
  path : String
  trace : Bool
  maxDispatches : Option BoundValue
  skipBlankLines : Bool
  dumpState : Bool
  deriving DecidableEq, Repr

/-- A complaint about a command line. -/
inductive UsageError where
  | ambiguous (argument : String) (candidates : List String)
  | valueIgnored (name : OptionName) (value : String)
  | valueMissing (name : OptionName)
  | valueInvalid (name : OptionName) (value : String)
  | fileMissing
  | unrecognized (arguments : List String)
  deriving DecidableEq, Repr

/-- The wording of a complaint. -/
def UsageError.message : UsageError → String
  | ambiguous argument candidates =>
    "ambiguous option: " ++ argument ++ " could match " ++ ", ".intercalate candidates
  | valueIgnored name value =>
    "argument " ++ name.title ++ ": ignored explicit argument " ++ Text.quoted value
  | valueMissing name => "argument " ++ name.title ++ ": expected one argument"
  | valueInvalid name value =>
    "argument " ++ name.title ++ ": invalid int value: " ++ Text.quoted value
  | fileMissing => "the following arguments are required: il_file"
  | unrecognized arguments => "unrecognized arguments: " ++ " ".intercalate arguments

/-- Why reading a command line stops: help was asked for, or there is a complaint. -/
inductive UsageStop where
  | help
  | error (e : UsageError)
  deriving DecidableEq, Repr

namespace Arguments

/-! ## Classification -/

/-- What an argument looks like on its own. -/
inductive Mark where
  /-- The `--` that ends the options. -/
  | separator
  /-- A file, or the value of an option. -/
  | plain
  /-- An option in a full spelling, with the value behind its equals sign or its letter. -/
  | option (spelling : String) (name : OptionName) (value : Option String)
  /-- Something like an option that is none. -/
  | unknown
  deriving DecidableEq, Repr

/-- Splits a text at its first equals sign. -/
def splitValue (argument : List Char) : List Char × Option (List Char) :=
  match argument.dropWhile (· ≠ '=') with
  | [] => (argument, none)
  | _ :: value => (argument.takeWhile (· ≠ '='), some value)

/-- A text without one line feed at its end. -/
def dropFinalBreak (text : List Char) : List Char :=
  match text.reverse with
  | '\n' :: rest => rest.reverse
  | _ => text

/-- Whether all characters are decimal digits. -/
def allDigits (text : List Char) : Bool :=
  text.all fun c => (Text.decimalDigit? c).isSome

/-- Whether an argument is a negative number: a minus, and digits or a decimal fraction. -/
def isNegativeNumber (argument : List Char) : Bool :=
  match dropFinalBreak argument with
  | '-' :: body =>
    let whole := body.takeWhile (· ≠ '.')
    match body.dropWhile (· ≠ '.') with
    | [] => !whole.isEmpty && allDigits whole
    | _ :: fraction => allDigits whole && !fraction.isEmpty && allDigits fraction
  | _ => false

/-- The options that a shortened long option may stand for. -/
def longCandidates (argument : List Char) : List Mark :=
  let (start, value) := splitValue argument
  OptionName.spellings.filterMap fun (spelling, name) =>
    if start.isPrefixOf spelling.toList then
      some (.option spelling name (value.map String.ofList))
    else none

/-- The options that a dash and a letter with something behind it may stand for. -/
def shortCandidates (argument : List Char) : List Mark :=
  OptionName.spellings.filterMap fun (spelling, name) =>
    if spelling.toList = argument.take 2 then
      some (.option spelling name (some (String.ofList (argument.drop 2))))
    else none

/-- The spelling of an option mark. -/
def Mark.spelling : Mark → String
  | option spelling _ _ => spelling
  | _ => ""

/-- The mark of an argument that is no full spelling of an option. -/
def classifyShortened (argument : String) : Except UsageError Mark :=
  let text := argument.toList
  let candidates :=
    if text.take 2 = ['-', '-'] then longCandidates text else shortCandidates text
  match candidates with
  | [mark] => .ok mark
  | [] =>
    if isNegativeNumber text || text.contains ' ' then .ok .plain else .ok .unknown
  | several => .error (.ambiguous argument (several.map Mark.spelling))

/-- The mark of an argument before the separator. -/
def classify (argument : String) : Except UsageError Mark :=
  if argument.toList.head? ≠ some '-' then .ok .plain
  else
    match OptionName.ofSpelling? argument with
    | some name => .ok (.option argument name none)
    | none =>
      if argument = "-" then .ok .plain
      else
        match splitValue argument.toList with
        | (start, some value) =>
          match OptionName.ofSpelling? (String.ofList start) with
          | some name => .ok (.option (String.ofList start) name (some (String.ofList value)))
          | none => classifyShortened argument
        | (_, none) => classifyShortened argument

/-- The arguments with their marks; behind the separator all are plain. -/
def classifyAll : List String → Except UsageError (List (Mark × String))
  | [] => .ok []
  | argument :: rest =>
    if argument = "--" then .ok ((.separator, argument) :: rest.map (.plain, ·))
    else
      match classify argument with
      | .error e => .error e
      | .ok mark =>
        match classifyAll rest with
        | .error e => .error e
        | .ok marked => .ok ((mark, argument) :: marked)

/-! ## Reading in order -/

/-- What has been read of a command line. -/
structure Progress where
  path : Option String
  trace : Bool
  maxDispatches : Option BoundValue
  skipBlankLines : Bool
  dumpState : Bool
  unrecognized : List String
  deriving DecidableEq, Repr

/-- Nothing read. -/
def Progress.start : Progress := ⟨none, false, none, false, false, []⟩

/-- Sets an option that takes no value. -/
def Progress.set (progress : Progress) : OptionName → Except UsageStop Progress
  | .help => .error .help
  | .trace => .ok { progress with trace := true }
  | .skipBlankLines => .ok { progress with skipBlankLines := true }
  | .dumpState => .ok { progress with dumpState := true }
  | .maxDispatches => .error (.error (.valueMissing .maxDispatches))

/-- Sets the bound on dispatches. -/
def Progress.setBound (progress : Progress) (value : String) : Except UsageStop Progress :=
  if value = "--" then .ok { progress with maxDispatches := some .empty }
  else
    match Text.readInt value with
    | some n => .ok { progress with maxDispatches := some (.number n) }
    | none => .error (.error (.valueInvalid .maxDispatches value))

/-- Takes an argument that belongs to nothing. -/
def Progress.reject (progress : Progress) (argument : String) : Progress :=
  { progress with unrecognized := progress.unrecognized ++ [argument] }

/-- What the text behind `-h` leads to: the letter `h` once more asks for help again, and anything
else is a value that help does not take. Earlier 3.11 releases of argparse complain like this, while
3.11.10 gives help for any letters. -/
def helpLetters : List Char → UsageStop
  | ['h'] => .help
  | 'h' :: rest => helpLetters rest
  | text => .error (.valueIgnored .help (String.ofList text))

/-- Takes an option that carries a value of its own. -/
def Progress.setExplicit (progress : Progress) (spelling : String) (name : OptionName)
    (value : String) : Except UsageStop Progress :=
  if name.takesValue then progress.setBound value
  else if spelling = "-h" then .error (helpLetters value.toList)
  else .error (.error (.valueIgnored name value))

/-- Takes the marked arguments in order. -/
def Progress.read (progress : Progress) :
    List (Mark × String) → Except UsageStop Progress
  | [] => .ok progress
  | (.unknown, argument) :: rest => (progress.reject argument).read rest
  | (.option spelling name (some value), _) :: rest =>
    match progress.setExplicit spelling name value with
    | .ok progress => progress.read rest
    | .error stop => .error stop
  | (.option _ .maxDispatches none, _) :: (.plain, value) :: rest =>
    match progress.setBound value with
    | .ok progress => progress.read rest
    | .error stop => .error stop
  | (.option _ name none, _) :: rest =>
    match progress.set name with
    | .ok progress => progress.read rest
    | .error stop => .error stop
  | (.plain, argument) :: rest =>
    match progress.path, rest with
    | some _, rest => (progress.reject argument).read rest
    | none, (.separator, _) :: rest => { progress with path := some argument }.read rest
    | none, rest => { progress with path := some argument }.read rest
  | (.separator, argument) :: rest =>
    match progress.path, rest with
    | none, (.plain, path) :: rest => { progress with path := some path }.read rest
    | _, rest => (progress.reject argument).read rest

/-- What a command line that was read to its end asks for. -/
def Progress.finish (progress : Progress) : Except UsageStop Options :=
  match progress.path with
  | none => .error (.error .fileMissing)
  | some path =>
    if progress.unrecognized.isEmpty then
      .ok ⟨Path.normalize path, progress.trace, progress.maxDispatches, progress.skipBlankLines,
        progress.dumpState⟩
    else .error (.error (.unrecognized progress.unrecognized))

/-- Reads a command line. -/
def parse (arguments : List String) : Except UsageStop Options :=
  match classifyAll arguments with
  | .error e => .error (.error e)
  | .ok marked =>
    match Progress.start.read marked with
    | .error stop => .error stop
    | .ok progress => progress.finish

/-! ## Examples -/

example : parse ["--max=7", "x", "--tr"] = .ok ⟨"x", true, some (.number 7), false, false⟩ := by
  with_unfolding_all rfl

example : parse ["x", "--", "-y"] = .error (.error (.unrecognized ["-y"])) := by
  with_unfolding_all rfl

end Arguments

end Dataflow
