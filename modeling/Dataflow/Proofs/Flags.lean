import Mathlib.Data.List.Induction
import Dataflow.CommandLine
import Dataflow.Proofs.Numerals

/-!
# Flags and the environment

Options on the command line take precedence over environment variables. A `Flag` is an option as it
is spelled out in arguments; `Environment.under` is the environment in which the variables have the
values that flags stand for. Flags are taken in order wherever the file stands among them
(`Progress.read_flags`), and what they leave overrides the settings just as that environment changes
them (`load_given`), although the bound on dispatches is read in two different ways. An argument that
names no file makes the command line stop in the same way whatever flags stand around it
(`Progress.exists_stop`).

Main statement: `flags_agree_with_environment`. The argument `--` is the one name of a file for which
it fails, as it is taken for the end of the options (`separator_hides_flag`).
-/

set_option autoImplicit false

namespace Dataflow

/-! ## Flags -/

/-- An option that is spelled out; the bound on dispatches follows behind a blank or an equals
sign. -/
inductive Flag where
  | trace
  | bound (decimal : Decimal)
  | boundJoined (decimal : Decimal)
  | skipBlankLines
  | dumpState
  deriving DecidableEq

namespace Flag

/-- The arguments by which a flag is given. -/
def arguments : Flag → List String
  | trace => ["--trace"]
  | bound decimal => ["--max-dispatches", decimal.text]
  | boundJoined decimal => ["--max-dispatches=" ++ decimal.text]
  | skipBlankLines => ["--skip-blank-lines"]
  | dumpState => ["--dump-state"]

/-- The bound on dispatches that a flag gives. -/
def bound? : Flag → Option Decimal
  | bound decimal => some decimal
  | boundJoined decimal => some decimal
  | _ => none

end Flag

/-- The environment with the values that flags stand for: the last bound counts. -/
def Environment.under (environment : Environment) (flags : List Flag) : Environment where
  logLevel := if .trace ∈ flags then some "DEBUG" else environment.logLevel
  maxDispatches :=
    ((flags.filterMap Flag.bound?).getLast?.map Decimal.text).or environment.maxDispatches
  skipBlankLines := if .skipBlankLines ∈ flags then some "true" else environment.skipBlankLines

/-- The request for a state dump is no setting. -/
theorem Environment.under_dumpState (environment : Environment) (dumped : Prop)
    [Decidable dumped] :
    environment.under (if dumped then [.dumpState] else []) = environment := by
  split
  · rfl
  · rfl

namespace Arguments

/-! ## Marks of flags -/

/-- The marks of the arguments of a flag. -/
def flagMarks : Flag → List (Mark × String)
  | .trace => [(.option "--trace" .trace none, "--trace")]
  | .bound decimal =>
    [(.option "--max-dispatches" .maxDispatches none, "--max-dispatches"), (.plain, decimal.text)]
  | .boundJoined decimal =>
    [(.option "--max-dispatches" .maxDispatches (some decimal.text),
      "--max-dispatches=" ++ decimal.text)]
  | .skipBlankLines => [(.option "--skip-blank-lines" .skipBlankLines none, "--skip-blank-lines")]
  | .dumpState => [(.option "--dump-state" .dumpState none, "--dump-state")]

/-- A decimal holds no dash. -/
theorem dash_not_mem (decimal : Decimal) : '-' ∉ decimal.text.toList := by
  intro hdash
  exact absurd (decimal.digits '-' hdash) (by decide)

/-- A decimal is no option. -/
theorem classify_decimal (decimal : Decimal) : classify decimal.text = .ok .plain := by
  rw [classify, if_pos]
  intro hfirst
  exact dash_not_mem decimal (List.mem_of_mem_head? (Option.mem_def.2 hfirst))

theorem decimal_ne_separator (decimal : Decimal) : decimal.text ≠ "--" := by
  intro hseparator
  exact dash_not_mem decimal (by simp [hseparator])

/-- A text is split at its first equals sign. -/
theorem splitValue_append {start : List Char} (h : '=' ∉ start) (value : List Char) :
    splitValue (start ++ '=' :: value) = (start, some value) := by
  have hother : ∀ c ∈ start, (decide (c ≠ '=')) = true := by
    intro c hc
    refine decide_eq_true ?_
    rintro rfl
    exact h hc
  rw [splitValue, List.dropWhile_append_of_pos hother, List.takeWhile_append_of_pos hother]
  simp

/-- No option is spelled with an equals sign. -/
theorem ofSpelling?_of_mem_equals {argument : String} (h : '=' ∈ argument.toList) :
    OptionName.ofSpelling? argument = none := by
  rw [OptionName.ofSpelling?, List.lookup_eq_none_iff]
  intro spelling hspelling
  have hplain : ∀ spelling ∈ OptionName.spellings, '=' ∉ spelling.1.toList := by decide +kernel
  rw [bne_iff_ne]
  rintro rfl
  exact hplain spelling hspelling h

/-- A bound behind an equals sign is no text without such a sign. -/
theorem joined_ne (decimal : Decimal) {other : String} (h : '=' ∉ other.toList) :
    "--max-dispatches=" ++ decimal.text ≠ other := by
  rintro rfl
  exact h (by simp)

theorem classify_joined (decimal : Decimal) :
    classify ("--max-dispatches=" ++ decimal.text) =
      .ok (.option "--max-dispatches" .maxDispatches (some decimal.text)) := by
  have hlist : ("--max-dispatches=" ++ decimal.text).toList =
      "--max-dispatches".toList ++ '=' :: decimal.text.toList := by
    rw [String.toList_append]
    rfl
  have hname : OptionName.ofSpelling? "--max-dispatches" = some .maxDispatches := by
    with_unfolding_all rfl
  rw [classify, if_neg, ofSpelling?_of_mem_equals]
  · -- the name stands in front of the first equals sign
    simp only [if_neg (joined_ne decimal (by decide : '=' ∉ "-".toList))]
    rw [hlist, splitValue_append (by decide)]
    simp only [String.ofList_toList, hname]
  · simp [hlist]
  · simp [hlist]

/-- What an argument with a mark adds in front of the others. -/
theorem classifyAll_cons {argument : String} {mark : Mark} (hseparator : argument ≠ "--")
    (hmark : classify argument = .ok mark) (rest : List String) :
    classifyAll (argument :: rest) =
      (classifyAll rest).map fun marked => (mark, argument) :: marked := by
  rw [classifyAll, if_neg hseparator, hmark]
  cases classifyAll rest with
  | error e => rfl
  | ok marked => rfl

theorem classifyAll_flag (flag : Flag) (rest : List String) :
    classifyAll (flag.arguments ++ rest) = (classifyAll rest).map (flagMarks flag ++ ·) := by
  cases flag with
  | trace => exact classifyAll_cons (by decide) (by with_unfolding_all rfl) rest
  | bound decimal =>
    have hvalue := classifyAll_cons (decimal_ne_separator decimal) (classify_decimal decimal) rest
    have hname : classify "--max-dispatches" =
        .ok (.option "--max-dispatches" .maxDispatches none) := by with_unfolding_all rfl
    have hboth := classifyAll_cons (by decide) hname (decimal.text :: rest)
    rw [hvalue] at hboth
    refine hboth.trans ?_
    cases classifyAll rest with
    | error e => rfl
    | ok marked => rfl
  | boundJoined decimal =>
    exact classifyAll_cons (joined_ne decimal (by decide)) (classify_joined decimal) rest
  | skipBlankLines => exact classifyAll_cons (by decide) (by with_unfolding_all rfl) rest
  | dumpState => exact classifyAll_cons (by decide) (by with_unfolding_all rfl) rest

theorem classifyAll_flags (flags : List Flag) (rest : List String) :
    classifyAll (flags.flatMap Flag.arguments ++ rest) =
      (classifyAll rest).map (flags.flatMap flagMarks ++ ·) := by
  induction flags with
  | nil =>
    cases hrest : classifyAll rest with
    | error e => simp [hrest, Except.map]
    | ok marked => simp [hrest, Except.map]
  | cons flag flags ih =>
    rw [List.flatMap_cons, List.append_assoc, classifyAll_flag, ih]
    cases classifyAll rest with
    | error e => rfl
    | ok marked => simp [Except.map]

namespace Progress

/-! ## Reading flags -/

/-- What a flag leaves of what was read before. -/
def give (progress : Progress) : Flag → Progress
  | .trace => { progress with trace := true }
  | .bound decimal => { progress with maxDispatches := some (.number decimal.value) }
  | .boundJoined decimal => { progress with maxDispatches := some (.number decimal.value) }
  | .skipBlankLines => { progress with skipBlankLines := true }
  | .dumpState => { progress with dumpState := true }

theorem setBound_decimal (progress : Progress) (decimal : Decimal) :
    progress.setBound decimal.text =
      .ok { progress with maxDispatches := some (.number decimal.value) } := by
  rw [setBound, if_neg (decimal_ne_separator decimal), decimal.readInt_text]

theorem read_flag (progress : Progress) (flag : Flag) (rest : List (Mark × String)) :
    progress.read (flagMarks flag ++ rest) = (progress.give flag).read rest := by
  cases flag with
  | trace => simp [flagMarks, read, set, give]
  | bound decimal => simp [flagMarks, read, setBound_decimal, give]
  | boundJoined decimal =>
    simp [flagMarks, read, setExplicit, OptionName.takesValue, setBound_decimal, give]
  | skipBlankLines => simp [flagMarks, read, set, give]
  | dumpState => simp [flagMarks, read, set, give]

/-- Flags are taken in order, whatever follows. -/
theorem read_flags (progress : Progress) (flags : List Flag) (rest : List (Mark × String)) :
    progress.read (flags.flatMap flagMarks ++ rest) = (flags.foldl give progress).read rest := by
  induction flags generalizing progress with
  | nil => rfl
  | cons flag flags ih =>
    rw [List.flatMap_cons, List.append_assoc, read_flag, ih, List.foldl_cons]

/-- The file can be set before or after the flags. -/
theorem foldl_give_path (progress : Progress) (flags : List Flag) (path : Option String) :
    flags.foldl give { progress with path } = { flags.foldl give progress with path } := by
  induction flags generalizing progress with
  | nil => rfl
  | cons flag flags ih =>
    have hgive : give { progress with path } flag = { progress.give flag with path } := by
      cases flag <;> rfl
    rw [List.foldl_cons, List.foldl_cons, hgive, ih]

theorem path_foldl_give (progress : Progress) (flags : List Flag) :
    (flags.foldl give progress).path = progress.path := by
  induction flags generalizing progress with
  | nil => rfl
  | cons flag flags ih =>
    have hgive : (progress.give flag).path = progress.path := by cases flag <;> rfl
    rw [List.foldl_cons, ih, hgive]

/-- What flags leave: those given, and the last bound. -/
theorem foldl_give_start (flags : List Flag) :
    flags.foldl give .start =
      { path := none
        trace := decide (.trace ∈ flags)
        maxDispatches :=
          (flags.filterMap Flag.bound?).getLast?.map fun decimal => .number decimal.value
        skipBlankLines := decide (.skipBlankLines ∈ flags)
        dumpState := decide (.dumpState ∈ flags)
        unrecognized := [] } := by
  induction flags using List.reverseRecOn with
  | nil => rfl
  | append_singleton flags flag ih =>
    -- the last flag decides the field that it sets, and leaves the others alone
    rw [List.foldl_append, ih]
    cases flag <;> simp [give, Flag.bound?, List.filterMap_append]

/-! ## Arguments in place of the file -/

/-- What comes of the remaining arguments. -/
def complete (progress : Progress) (marked : List (Mark × String)) : Except UsageStop Options :=
  match progress.read marked with
  | .error stop => .error stop
  | .ok later => later.finish

/-- Flags start with an option, if there are any. -/
theorem flagMarks_cases (flags : List Flag) :
    flags.flatMap flagMarks = [] ∨ ∃ spelling name value argument rest,
      flags.flatMap flagMarks = (.option spelling name value, argument) :: rest := by
  cases flags with
  | nil => exact Or.inl rfl
  | cons flag flags =>
    refine Or.inr ?_
    cases flag <;> exact ⟨_, _, _, _, _, rfl⟩

/-- Flags alone name no file. -/
theorem complete_flags {progress : Progress} (h : progress.path = none) (flags : List Flag) :
    progress.complete (flags.flatMap flagMarks) = .error (.error .fileMissing) := by
  have hread := progress.read_flags flags []
  rw [List.append_nil] at hread
  rw [complete, hread, read]
  simp only [finish, path_foldl_give, h]

/-- The file is taken from among the flags. -/
theorem complete_plain {progress : Progress} (h : progress.path = none) (path : String)
    (flags : List Flag) :
    progress.complete ((.plain, path) :: flags.flatMap flagMarks) =
      (flags.foldl give { progress with path := some path }).finish := by
  have hread := read_flags { progress with path := some path } flags []
  rw [List.append_nil] at hread
  have hplain : progress.read ((.plain, path) :: flags.flatMap flagMarks) =
      read { progress with path := some path } (flags.flatMap flagMarks) := by
    rcases flagMarks_cases flags with hnone | ⟨spelling, name, value, argument, rest, hsome⟩
    · rw [hnone]
      simp [read, h]
    · rw [hsome]
      simp [read, h]
  rw [complete, hplain, hread, read]

/-- An option with a value of its own stops the command line or sets the bound. -/
theorem setExplicit_cases (spelling : String) (name : OptionName) (value : String) :
    (∃ stop, ∀ progress : Progress, progress.setExplicit spelling name value = .error stop) ∨
      ∀ progress : Progress, ∃ later, progress.setExplicit spelling name value = .ok later ∧
        later.path = progress.path := by
  simp only [setExplicit, setBound]
  split
  · split
    · exact Or.inr fun progress => ⟨_, rfl, rfl⟩
    · cases Text.readInt value with
      | some n => exact Or.inr fun progress => ⟨_, rfl, rfl⟩
      | none => exact Or.inl ⟨_, fun _ => rfl⟩
  · split
    · exact Or.inl ⟨_, fun _ => rfl⟩
    · exact Or.inl ⟨_, fun _ => rfl⟩

/-- An option without a value stops the command line or is set. -/
theorem set_cases (name : OptionName) :
    (∃ stop, ∀ progress : Progress, progress.set name = .error stop) ∨
      ∀ progress : Progress, ∃ later, progress.set name = .ok later ∧
        later.path = progress.path := by
  cases name with
  | help | maxDispatches => exact Or.inl ⟨_, fun _ => rfl⟩
  | trace | skipBlankLines | dumpState => exact Or.inr fun progress => ⟨_, rfl, rfl⟩

/-- An argument that names no file makes the command line stop in the same way, whatever flags
stand around it. -/
theorem exists_stop {mark : Mark} (hmark : mark ≠ .plain) (argument : String) :
    ∃ stop, ∀ (progress : Progress) (flags : List Flag), progress.path = none →
      progress.complete ((mark, argument) :: flags.flatMap flagMarks) = .error stop := by
  -- what is passed over leaves the file missing
  have hpassed : ∀ (progress later : Progress) (flags : List Flag), later.path = none →
      progress.read ((mark, argument) :: flags.flatMap flagMarks) =
        later.read (flags.flatMap flagMarks) →
      progress.complete ((mark, argument) :: flags.flatMap flagMarks) =
        .error (.error .fileMissing) := by
    intro progress later flags hlater hread
    rw [complete, hread]
    exact complete_flags hlater flags
  cases mark with
  | plain => exact absurd rfl hmark
  | unknown =>
    refine ⟨.error .fileMissing, fun progress flags h =>
      hpassed progress (progress.reject argument) flags h ?_⟩
    rw [read]
  | separator =>
    refine ⟨.error .fileMissing, fun progress flags h =>
      hpassed progress (progress.reject argument) flags h ?_⟩
    rcases flagMarks_cases flags with hnone | ⟨spelling, name, value, option, rest, hsome⟩
    · simp [hnone, read]
    · simp [hsome, read]
  | option spelling name value =>
    cases value with
    | some value =>
      rcases setExplicit_cases spelling name value with ⟨stop, hstop⟩ | hset
      · exact ⟨stop, fun progress flags h => by simp [complete, read, hstop]⟩
      · refine ⟨.error .fileMissing, fun progress flags h => ?_⟩
        obtain ⟨later, hlater, hpath⟩ := hset progress
        exact hpassed progress later flags (hpath.trans h) (by simp [read, hlater])
    | none =>
      -- no value follows, as flags start with an option
      have hread : ∀ (progress : Progress) (flags : List Flag),
          progress.read ((.option spelling name none, argument) :: flags.flatMap flagMarks) =
            (progress.set name).bind fun later => later.read (flags.flatMap flagMarks) := by
        intro progress flags
        rcases flagMarks_cases flags with hnone | ⟨spelling', name', value', option, rest, hsome⟩
        · cases hset : progress.set name <;> simp [hnone, read, hset, Except.bind]
        · cases hset : progress.set name <;> simp [hsome, read, hset, Except.bind]
      rcases set_cases name with ⟨stop, hstop⟩ | hset
      · exact ⟨stop, fun progress flags h => by simp [complete, hread, hstop, Except.bind]⟩
      · refine ⟨.error .fileMissing, fun progress flags h => ?_⟩
        obtain ⟨later, hlater, hpath⟩ := hset progress
        exact hpassed progress later flags (hpath.trans h) (by simp [hread, hlater, Except.bind])

end Progress

/-! ## Whole command lines -/

/-- The arguments with which a file is given among flags. -/
def commandLine (before : List Flag) (path : String) (after : List Flag) : List String :=
  before.flatMap Flag.arguments ++ path :: after.flatMap Flag.arguments

/-- What flags and a file ask for. -/
def given (flags : List Flag) (path : String) : Options where
  path := Path.normalize path
  trace := decide (.trace ∈ flags)
  maxDispatches := (flags.filterMap Flag.bound?).getLast?.map fun decimal => .number decimal.value
  skipBlankLines := decide (.skipBlankLines ∈ flags)
  dumpState := decide (.dumpState ∈ flags)

theorem parse_commandLine (before after : List Flag) {path : String} (hpath : path ≠ "--") :
    parse (commandLine before path after) =
      match classify path with
      | .error e => .error (.error e)
      | .ok mark => (before.foldl Progress.give .start).complete
          ((mark, path) :: after.flatMap flagMarks) := by
  have hafter : classifyAll (after.flatMap Flag.arguments) = .ok (after.flatMap flagMarks) := by
    have hflags := classifyAll_flags after []
    simpa [classifyAll, Except.map] using hflags
  rw [parse, commandLine, classifyAll_flags, classifyAll, if_neg hpath, hafter]
  cases classify path with
  | error e => rfl
  | ok mark =>
    simp only [Except.map, Progress.read_flags]
    rfl

/-- An argument among flags stops every command line in the same way, or is taken as the file in all
of them. -/
theorem parse_commandLine_cases {path : String} (hpath : path ≠ "--") :
    (∃ stop, ∀ before after, parse (commandLine before path after) = .error stop) ∨
      ∀ before after, parse (commandLine before path after) = .ok (given (before ++ after) path) := by
  have hnone : ∀ flags : List Flag, (flags.foldl Progress.give .start).path = none :=
    fun flags => Progress.path_foldl_give .start flags
  cases hclassify : classify path with
  | error e =>
    refine Or.inl ⟨.error e, fun before after => ?_⟩
    rw [parse_commandLine before after hpath, hclassify]
  | ok mark =>
    by_cases hmark : mark = .plain
    · refine Or.inr fun before after => ?_
      rw [parse_commandLine before after hpath, hclassify, hmark]
      simp only [Progress.complete_plain (hnone before)]
      rw [Progress.foldl_give_path, ← List.foldl_append, Progress.foldl_give_start]
      rfl
    · obtain ⟨stop, hstop⟩ := Progress.exists_stop hmark path
      refine Or.inl ⟨stop, fun before after => ?_⟩
      rw [parse_commandLine before after hpath, hclassify]
      exact hstop _ after (hnone before)

end Arguments

namespace CommandLine

/-! ## Settings -/

/-- The bound is the same number whether it is given as a number or as its text. -/
theorem toBound_decimal (decimal : Decimal) :
    (RawSetting.int decimal.value).toBound = (RawSetting.text decimal.text).toBound := by
  simp only [RawSetting.toBound, RawSetting.toInt, decimal.readWhole_text]

/-- Flags override the settings as the environment changes them. -/
theorem load_given (environment : Environment) (flags : List Flag) (path : String) :
    Settings.load environment (overrides (Arguments.given flags path)) =
      Settings.load (environment.under flags) .none := by
  -- the level is the same text either way, while the two others only pass as the same value
  have hlevel : rawSetting (overrides (Arguments.given flags path)).logLevel environment.logLevel
      "WARNING" = rawSetting none (environment.under flags).logLevel "WARNING" := by
    simp only [overrides, Arguments.given, Environment.under]
    by_cases htrace : Flag.trace ∈ flags
    · simp [htrace, rawSetting]
    · simp [htrace, rawSetting]
  have hbound : (rawSetting (overrides (Arguments.given flags path)).maxDispatches
      environment.maxDispatches "0").toBound =
        (rawSetting none (environment.under flags).maxDispatches "0").toBound := by
    simp only [overrides, Arguments.given, Environment.under]
    cases (flags.filterMap Flag.bound?).getLast? with
    | none => rfl
    | some decimal => exact toBound_decimal decimal
  have hskip : (rawSetting (overrides (Arguments.given flags path)).skipBlankLines
      environment.skipBlankLines "false").toFlag =
        (rawSetting none (environment.under flags).skipBlankLines "false").toFlag := by
    have htrue : (RawSetting.bool true).toFlag = (RawSetting.text "true").toFlag := by
      decide +kernel
    simp only [overrides, Arguments.given, Environment.under]
    by_cases hflag : Flag.skipBlankLines ∈ flags
    · simpa [hflag, rawSetting] using htrue
    · simp [hflag, rawSetting]
  simp only [Settings.load, hlevel, hbound, hskip]
  rfl

/-! ## Answers -/

/-- Settings that are given make the environment irrelevant. -/
theorem ofFile_environment (environment other : Environment) (settings : Settings)
    (listener : Option Listener) (path : String) (bytes : List UInt8) :
    Session.ofFile environment (some settings) listener path bytes =
      Session.ofFile other (some settings) listener path bytes := by
  rw [Session.ofFile, Session.ofFile]
  cases Text.Utf8.decode bytes with
  | error flaw => rfl
  | ok text => rfl

theorem closing_of_dumpState {options other : Options} (h : options.dumpState = other.dumpState) :
    closing options = closing other := by
  funext result
  cases result with
  | ok report => simp only [closing, h]
  | error failure => cases failure <;> rfl

/-- An answer depends on the file, the settings that the options lead to, and whether the state is to
be dumped. -/
theorem answer_congr (steps : Nat) {environment other : Environment}
    (files : String → Option (List UInt8)) {arguments arguments' : List String}
    {options options' : Options} (hparse : Arguments.parse arguments = .ok options)
    (hparse' : Arguments.parse arguments' = .ok options') (hpath : options.path = options'.path)
    (hdump : options.dumpState = options'.dumpState)
    (hload : Settings.load environment (overrides options) =
      Settings.load other (overrides options')) :
    answer steps environment files arguments = answer steps other files arguments' := by
  rw [answer, answer, request, request, hparse, hparse']
  simp only [hpath, hload]
  cases files options'.path with
  | none => rfl
  | some bytes =>
    simp only
    cases Settings.load other (overrides options') with
    | error fault => rfl
    | ok settings =>
      simp only [ofFile_environment environment other settings]
      refine congrArg (Option.map · _) ?_
      funext conclusion
      simp only [Job.transcript, closing_of_dumpState hdump]

/-- Flags around a file are answered as the file alone is in the environment that has the values of
the flags, where only the request for a state dump is still an argument. In particular the values
that the environment itself has for what flags set make no difference. The argument `--` is no file:
it ends the options. -/
theorem flags_agree_with_environment (steps : Nat) (environment : Environment)
    (files : String → Option (List UInt8)) (before after : List Flag) {path : String}
    (hpath : path ≠ "--") :
    answer steps environment files (Arguments.commandLine before path after) =
      answer steps (environment.under (before ++ after)) files
        (path :: if .dumpState ∈ before ++ after then ["--dump-state"] else []) ∧
    ∀ other : Environment, other.under (before ++ after) = environment.under (before ++ after) →
      answer steps other files (Arguments.commandLine before path after) =
        answer steps environment files (Arguments.commandLine before path after) := by
  have hagree : ∀ environment : Environment,
      answer steps environment files (Arguments.commandLine before path after) =
        answer steps (environment.under (before ++ after)) files
          (path :: if .dumpState ∈ before ++ after then ["--dump-state"] else []) := by
    intro environment
    have hdump : (path :: if .dumpState ∈ before ++ after then ["--dump-state"] else []) =
        Arguments.commandLine [] path
          (if .dumpState ∈ before ++ after then [.dumpState] else []) := by
      split
      · rfl
      · rfl
    rw [hdump]
    rcases Arguments.parse_commandLine_cases hpath with ⟨stop, hstop⟩ | hgiven
    · rw [answer, answer, request, request, hstop, hstop]
    · refine answer_congr steps files (hgiven before after) (hgiven [] _) rfl ?_ ?_
      · by_cases hflag : Flag.dumpState ∈ before ++ after
        · simp [Arguments.given, hflag]
        · simp [Arguments.given, hflag]
      · rw [load_given, load_given, List.nil_append, Environment.under_dumpState]
  refine ⟨hagree environment, ?_⟩
  intro other hother
  rw [hagree, hagree, hother]

/-- An environment with a level and a bound that cannot be read. -/
def garbled : Environment := ⟨some "loud", some "many", none⟩

/-- The flags set the level and the bound, so that it can still be used. -/
theorem flags_agree_with_environment_garbled :
    (∃ fault, Settings.load garbled .none = .error fault) ∧
      answer 1 garbled (fun _ => some []) ["--max-dispatches", "7", "--trace", "x.il",
          "--max-dispatches=2", "--dump-state"] =
        answer 1 ⟨some "DEBUG", some "2", none⟩ (fun _ => some []) ["x.il", "--dump-state"] := by
  refine ⟨⟨_, rfl⟩, ?_⟩
  have hagree := flags_agree_with_environment 1 garbled (fun _ => some [])
    [.bound (.ofNat 7 (by decide)), .trace] [.boundJoined (.ofNat 2 (by decide)), .dumpState]
    (by decide : "x.il" ≠ "--")
  exact hagree.1

/-- The bytes of the only file, whose name is that of the separator. -/
def separatorFile (path : String) : Option (List UInt8) := if path = "--" then some [] else none

/-- Behind the separator a flag is taken for the file, while without the flag no file is left. -/
theorem separator_hides_flag :
    separatorFile "--" = some [] ∧
      answer 1 ⟨none, none, none⟩ separatorFile (Arguments.commandLine [] "--" [.trace]) ≠
        answer 1 (Environment.under ⟨none, none, none⟩ [.trace]) separatorFile ["--"] := by
  refine ⟨rfl, ?_⟩
  have hflag : Arguments.parse (Arguments.commandLine [] "--" [.trace]) =
      .ok ⟨"--trace", false, none, false, false⟩ := by
    with_unfolding_all rfl
  have halone : Arguments.parse ["--"] = .error (.error .fileMissing) := by
    with_unfolding_all rfl
  have hmissing : separatorFile "--trace" = none := rfl
  rw [answer, answer, request, request, hflag, halone]
  simp only [hmissing]
  intro hsame
  have hstderr := congrArg Transcript.stderr (Option.some.inj hsame)
  exact absurd hstderr (by decide +kernel)

end CommandLine

end Dataflow
