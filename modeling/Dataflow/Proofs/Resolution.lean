import Mathlib.Data.Rat.Lemmas
import Dataflow.Proofs.WholeNumbers.Grammar

/-!
# How settings are resolved

Each field of the settings has a raw value: the override if one is given, else the text of an
environment variable, else a default (`SettingField.raw`). What raw values stand for is told for
each kind of field on its own, without the checks that are made: `RawSetting.MeansLevel`,
`RawSetting.MeansBound` and `RawSetting.MeansFlag`. A field is checked by what its raw value means
(`LogLevel.ofRaw_eq_ok_iff`, `RawSetting.toBound_eq_ok_iff`, `RawSetting.toFlag_eq_ok_iff`), and the
settings are what all raw values mean, or the first field that has none is reported
(`Settings.resolved`).

Main statement: `settings_resolve_by_field`.
-/

set_option autoImplicit false

namespace Dataflow

/-! ## Fields -/

/-- The fields of settings. -/
inductive SettingField where
  | logLevel
  | maxDispatches
  | skipBlankLines
  deriving DecidableEq, Repr

namespace SettingField

/-- All fields in the order in which they are checked. -/
def all : List SettingField := [logLevel, maxDispatches, skipBlankLines]

/-- The key under which a field is overridden, by which it is reported too. -/
def key : SettingField → String
  | logLevel => "log_level"
  | maxDispatches => "max_dispatches"
  | skipBlankLines => "skip_blank_lines"

/-- The environment variable of a field. -/
def variableName : SettingField → String
  | logLevel => "AEOLIS_LOG_LEVEL"
  | maxDispatches => "AEOLIS_MAX_DISPATCHES"
  | skipBlankLines => "AEOLIS_SKIP_BLANK_LINES"

/-- The text for a field that is set nowhere. -/
def fallback : SettingField → String
  | logLevel => "WARNING"
  | maxDispatches => "0"
  | skipBlankLines => "false"

/-- The raw value of a field: the override, else the environment's text, else the default. -/
def raw (environment : String → Option String) (overrides : String → Option RawSetting)
    (field : SettingField) : RawSetting :=
  match overrides field.key with
  | some value => value
  | none =>
    match environment field.variableName with
    | some text => .text text
    | none => .text field.fallback

end SettingField

/-! ## What raw values mean -/

/-- The words for a flag. -/
def flagWords : Bool → List String
  | false => ["0", "off", "f", "false", "n", "no"]
  | true => ["1", "on", "t", "true", "y", "yes"]

namespace RawSetting

/-- A text means the log level whose word it is in capitals. -/
inductive MeansLevel : RawSetting → LogLevel → Prop where
  | text {content : String} {level : LogLevel} (h : Text.upperCase content = level.word) :
      MeansLevel (.text content) level

/-- Numbers that are not negative mean themselves, also as floating-point numbers below 2^63 and as
texts; flags mean 0 and 1. -/
inductive MeansBound : RawSetting → Nat → Prop where
  | int (n : Nat) : MeansBound (.int n) n
  | bool (b : Bool) : MeansBound (.bool b) b.toNat
  | real {n : Nat} (h : n < 0x8000000000000000) : MeansBound (.real n) n
  | text {content : String} {n : Nat} (h : WholeText content.toList n) :
      MeansBound (.text content) n

/-- Flags mean themselves, as do the words for them in any letter case and the numbers 0 and 1. -/
inductive MeansFlag : RawSetting → Bool → Prop where
  | bool (b : Bool) : MeansFlag (.bool b) b
  | int (b : Bool) : MeansFlag (.int b.toNat) b
  | real (b : Bool) : MeansFlag (.real b.toNat) b
  | text {content : String} {b : Bool}
      (h : String.ofList (content.toList.map Char.toLower) ∈ flagWords b) :
      MeansFlag (.text content) b

end RawSetting

/-! ## Checks -/

/-- Characters with a capital form of their own come behind the capitals `A` to `Z`. -/
theorem Text.upperChar_of_lt {c : Char} (h : c.toNat < 0x61) : upperChar c = [c] := by
  have hruns : ∀ run ∈ caseRuns, 0x61 ≤ run.first := by decide +kernel
  have hexpansions : ∀ entry ∈ caseExpansions, 0x61 ≤ entry.1 := by decide +kernel
  have hrun : caseRuns.find? (·.holds c.toNat) = none := by
    rw [List.find?_eq_none]
    intro run hrun hholds
    have hfirst := hruns run hrun
    simp only [CaseRun.holds, Bool.and_eq_true, decide_eq_true_eq] at hholds
    omega
  have hexpansion : caseExpansions.lookup c.toNat = none := by
    rw [List.lookup_eq_none_iff]
    intro entry hentry
    have hfirst := hexpansions entry hentry
    rw [bne_iff_ne]
    omega
  rw [upperChar, hrun, hexpansion]

theorem Text.upperCase_eq_self {text : String} (h : ∀ c ∈ text.toList, c.toNat < 0x61) :
    upperCase text = text := by
  have hchars : ∀ c ∈ text.toList, upperChar c = [c] := fun c hc => upperChar_of_lt (h c hc)
  rw [upperCase, List.flatMap_congr hchars, List.flatMap_singleton', String.ofList_toList]

theorem LogLevel.upperCase_word (level : LogLevel) : Text.upperCase level.word = level.word := by
  apply Text.upperCase_eq_self
  cases level <;> simp [word]

theorem LogLevel.ofWord?_eq_some_iff {word : String} {level : LogLevel} :
    ofWord? word = some level ↔ level.word = word := by
  constructor
  · intro h
    have hword := List.find?_some h
    exact of_decide_eq_true hword
  · rintro rfl
    cases level <;> rfl

theorem LogLevel.ofRaw_eq_ok_iff {raw : RawSetting} {level : LogLevel} :
    ofRaw raw = .ok level ↔ raw.MeansLevel level := by
  constructor
  · intro h
    cases raw with
    | text content =>
      rw [ofRaw] at h
      split at h
      · next found hfound =>
        obtain rfl := Except.ok.inj h
        exact .text (ofWord?_eq_some_iff.1 hfound).symm
      · cases h
    | _ => cases h
  · rintro ⟨hword⟩
    rw [ofRaw, ofWord?_eq_some_iff.2 hword.symm]

namespace RawSetting

theorem toInt_eq_ok_of_toBound {raw : RawSetting} {n : Nat} (h : raw.toBound = .ok n) :
    raw.toInt = .ok (n : Int) := by
  rw [toBound] at h
  split at h
  · cases h
  · next m hread =>
    split at h
    · cases h
    · next hnegative =>
      obtain rfl := Except.ok.inj h
      rw [hread, Int.toNat_of_nonneg (Int.not_lt.1 hnegative)]

theorem toBound_of_toInt {raw : RawSetting} {n : Nat} (h : raw.toInt = .ok (n : Int)) :
    raw.toBound = .ok n := by
  rw [toBound, h]
  dsimp only
  rw [if_neg (Int.not_lt.2 (Int.natCast_nonneg n)), Int.toNat_natCast]

theorem isWholeWord_natCast (n : Nat) : isWholeWord n = true ↔ n < 0x8000000000000000 := by
  simp only [isWholeWord, fitsWord, Bool.and_eq_true, decide_eq_true_eq]
  rw [Rat.num_natCast, Rat.den_natCast, wordHalf]
  omega

/-- A whole number is given by its numerator. -/
theorem eq_natCast_of_den {q : Rat} {n : Nat} (hden : q.den = 1) (hnum : q.num = n) : q = n := by
  rw [← (Rat.den_eq_one_iff q).1 hden, hnum, Rat.intCast_natCast]

theorem toBound_eq_ok_iff {raw : RawSetting} {n : Nat} :
    raw.toBound = .ok n ↔ raw.MeansBound n := by
  constructor
  · intro h
    have hread := toInt_eq_ok_of_toBound h
    cases raw with
    | int m =>
      obtain rfl := Except.ok.inj hread
      exact .int n
    | bool b =>
      have hvalue : b.toNat = n := by
        cases b with
        | false => exact Int.natCast_inj.1 (Except.ok.inj hread)
        | true => exact Int.natCast_inj.1 (Except.ok.inj hread)
      rw [← hvalue]
      exact .bool b
    | text content => exact .text (readWhole_eq_ok_iff.1 hread)
    | real q =>
      -- a floating-point number is looked at for its fraction first and for its size then
      rw [toInt] at hread
      split at hread
      · cases hread
      · next hden =>
        split at hread
        · next hword =>
          obtain rfl := eq_natCast_of_den (not_not.1 hden) (Except.ok.inj hread)
          exact .real ((isWholeWord_natCast n).1 hword)
        · cases hread
    | null => cases hread
    | infinite => cases hread
    | compound => cases hread
  · intro h
    apply toBound_of_toInt
    cases h with
    | int => rfl
    | bool b => cases b <;> rfl
    | real hn =>
      rw [toInt, if_neg (not_not_intro (Rat.den_natCast n)), if_pos ((isWholeWord_natCast n).2 hn),
        Rat.num_natCast]
    | text hcontent => exact readWhole_eq_ok_iff.2 hcontent

theorem flagOfWord?_eq_some_iff {content : String} {b : Bool} :
    flagOfWord? content = some b ↔
      String.ofList (content.toList.map Char.toLower) ∈ flagWords b := by
  -- no word stands for both flags, so it does not matter which ones are looked at first
  have hapart : ∀ word ∈ flagWords true, word ∉ flagWords false := by decide
  rw [flagOfWord?]
  generalize String.ofList (content.toList.map Char.toLower) = word
  change (if word ∈ flagWords false then some false
    else if word ∈ flagWords true then some true else none) = some b ↔ word ∈ flagWords b
  cases b with
  | false =>
    split
    · next hno => simp [hno]
    · next hno => split <;> simp [hno]
  | true =>
    split
    · next hno => simpa using fun hyes => hapart word hyes hno
    · split
      · next hyes => simp [hyes]
      · next hyes => simp [hyes]

theorem flagOfInt?_eq_some_iff {n : Int} {b : Bool} : flagOfInt? n = some b ↔ n = b.toNat := by
  rw [flagOfInt?]
  split
  · cases b <;> simp_all
  · split
    · cases b <;> simp_all
    · cases b <;> simp_all

theorem clearFlag_eq_ok_iff {found : Option Bool} {b : Bool} :
    clearFlag found = .ok b ↔ found = some b := by
  cases found with
  | none => simp [clearFlag]
  | some c => simp [clearFlag]

theorem isWholeWord_flag (b : Bool) : isWholeWord b.toNat = true := by
  rw [isWholeWord_natCast]
  cases b <;> decide

theorem toFlag_eq_ok_iff {raw : RawSetting} {b : Bool} :
    raw.toFlag = .ok b ↔ raw.MeansFlag b := by
  constructor
  · intro h
    cases raw with
    | bool c =>
      obtain rfl := Except.ok.inj h
      exact .bool c
    | text content => exact .text (flagOfWord?_eq_some_iff.1 (clearFlag_eq_ok_iff.1 h))
    | int n =>
      rw [toFlag] at h
      split at h
      · rw [flagOfInt?_eq_some_iff.1 (clearFlag_eq_ok_iff.1 h)]
        exact .int b
      · cases h
    | real q =>
      rw [toFlag] at h
      split at h
      · next hword =>
        have hnum := flagOfInt?_eq_some_iff.1 (clearFlag_eq_ok_iff.1 h)
        have hden : q.den = 1 := by
          rw [isWholeWord, Bool.and_eq_true, Bool.and_eq_true, decide_eq_true_eq] at hword
          exact hword.1.1
        rw [eq_natCast_of_den hden hnum]
        exact .real b
      · cases h
    | null => cases h
    | infinite => cases h
    | compound => cases h
  · intro h
    cases h with
    | bool => rfl
    | int => cases b <;> rfl
    | real =>
      rw [toFlag, if_pos (isWholeWord_flag b), clearFlag_eq_ok_iff, flagOfInt?_eq_some_iff,
        Rat.num_natCast]
    | text hcontent => exact clearFlag_eq_ok_iff.2 (flagOfWord?_eq_some_iff.2 hcontent)

end RawSetting

/-! ## Settings by their fields -/

namespace Settings

/-- A field of settings is what a raw value means. -/
def Holds (settings : Settings) (raw : RawSetting) : SettingField → Prop
  | .logLevel => raw.MeansLevel settings.logLevel
  | .maxDispatches => raw.MeansBound settings.maxDispatches
  | .skipBlankLines => raw.MeansFlag settings.skipBlankLines

/-- A field of settings as a raw value. -/
def value (settings : Settings) : SettingField → RawSetting
  | .logLevel => .text settings.logLevel.word
  | .maxDispatches => .int settings.maxDispatches
  | .skipBlankLines => .bool settings.skipBlankLines

/-- The settings under an environment and overrides that are looked up by their names. -/
def resolve (environment : String → Option String) (overrides : String → Option RawSetting) :
    Except Fault Settings :=
  load (.ofLookup environment) (.ofLookup overrides)

variable {settings other : Settings} {raw : RawSetting}

/-- A raw value means one thing for a field. -/
theorem Holds.unique {field : SettingField} (h : settings.Holds raw field)
    (hother : other.Holds raw field) : settings.value field = other.value field := by
  cases field with
  | logLevel =>
    have hlevel := (LogLevel.ofRaw_eq_ok_iff.2 h).symm.trans (LogLevel.ofRaw_eq_ok_iff.2 hother)
    exact congrArg (fun level => RawSetting.text (LogLevel.word level)) (Except.ok.inj hlevel)
  | maxDispatches =>
    have hbound :=
      (RawSetting.toBound_eq_ok_iff.2 h).symm.trans (RawSetting.toBound_eq_ok_iff.2 hother)
    exact congrArg (fun n : Nat => RawSetting.int n) (Except.ok.inj hbound)
  | skipBlankLines =>
    have hflag :=
      (RawSetting.toFlag_eq_ok_iff.2 h).symm.trans (RawSetting.toFlag_eq_ok_iff.2 hother)
    exact congrArg RawSetting.bool (Except.ok.inj hflag)

/-- Each field means itself. -/
theorem holds_value (settings : Settings) (field : SettingField) :
    settings.Holds (settings.value field) field := by
  cases field with
  | logLevel => exact .text (settings.logLevel.upperCase_word)
  | maxDispatches => exact .int settings.maxDispatches
  | skipBlankLines => exact .bool settings.skipBlankLines

/-- Settings are told by their fields. -/
theorem eq_of_value (h : ∀ field, settings.value field = other.value field) : settings = other := by
  -- log levels have different words
  have hword := RawSetting.text.inj (h .logLevel)
  have hlevel : settings.logLevel = other.logLevel := by
    have hfound := LogLevel.ofWord?_eq_some_iff.2 hword
    rw [LogLevel.ofWord?_eq_some_iff.2 rfl] at hfound
    exact (Option.some.inj hfound).symm
  have hbound := Int.natCast_inj.1 (RawSetting.int.inj (h .maxDispatches))
  have hflag := RawSetting.bool.inj (h .skipBlankLines)
  obtain ⟨level, bound, flag⟩ := settings
  obtain ⟨level', bound', flag'⟩ := other
  dsimp only at hlevel hbound hflag
  rw [hlevel, hbound, hflag]

end Settings

/-- A raw value means something for a field. -/
def SettingField.Accepts (field : SettingField) (raw : RawSetting) : Prop :=
  ∃ settings : Settings, settings.Holds raw field

namespace Settings

/-! ## Resolution -/

/-- How settings are resolved: they are what the raw values of all fields mean, or the first field
is reported whose raw value means nothing. -/
inductive Resolved (environment : String → Option String) (overrides : String → Option RawSetting) :
    Except Fault Settings → Prop where
  | rejected (before : List SettingField) (field : SettingField) (after : List SettingField)
      (flaw : SettingFlaw) (hall : SettingField.all = before ++ field :: after)
      (hbefore : ∀ earlier ∈ before, earlier.Accepts (earlier.raw environment overrides))
      (hfield : ¬ field.Accepts (field.raw environment overrides)) :
      Resolved environment overrides (.error (.unplaced (.invalidSettings field.key flaw.message)))
  | loaded {settings : Settings}
      (h : ∀ field : SettingField, settings.Holds (field.raw environment overrides) field) :
      Resolved environment overrides (.ok settings)

section Resolution

variable (environment : String → Option String) (overrides : String → Option RawSetting)

theorem rawSetting_eq (field : SettingField) :
    rawSetting (overrides field.key) (environment field.variableName) field.fallback =
      field.raw environment overrides := by
  rw [rawSetting, SettingField.raw]
  cases overrides field.key with
  | some value => rfl
  | none => cases environment field.variableName <;> rfl

/-- Each field is checked by its own raw value. -/
theorem resolve_eq :
    resolve environment overrides =
      match inField "log_level"
          (LogLevel.ofRaw (SettingField.raw environment overrides .logLevel)) with
      | .error fault => .error fault
      | .ok level =>
        match inField "max_dispatches"
            (SettingField.raw environment overrides .maxDispatches).toBound with
        | .error fault => .error fault
        | .ok bound =>
          match inField "skip_blank_lines"
              (SettingField.raw environment overrides .skipBlankLines).toFlag with
          | .error fault => .error fault
          | .ok skip => .ok ⟨level, bound, skip⟩ := by
  rw [← rawSetting_eq, ← rawSetting_eq, ← rawSetting_eq]
  rfl

theorem resolved : Resolved environment overrides (resolve environment overrides) := by
  rw [resolve_eq]
  -- the checks are cut off by the first one that fails, when the fields before it have passed
  cases hlevel : LogLevel.ofRaw (SettingField.raw environment overrides .logLevel) with
  | error flaw =>
    refine .rejected [] .logLevel [.maxDispatches, .skipBlankLines] flaw rfl
      (List.forall_mem_nil _) ?_
    rintro ⟨settings, hsettings⟩
    rw [LogLevel.ofRaw_eq_ok_iff.2 hsettings] at hlevel
    cases hlevel
  | ok level =>
    have hlevelMeant := LogLevel.ofRaw_eq_ok_iff.1 hlevel
    cases hbound : (SettingField.raw environment overrides .maxDispatches).toBound with
    | error flaw =>
      refine .rejected [.logLevel] .maxDispatches [.skipBlankLines] flaw rfl ?_ ?_
      · exact List.forall_mem_singleton.2 ⟨⟨level, 0, false⟩, hlevelMeant⟩
      · rintro ⟨settings, hsettings⟩
        rw [RawSetting.toBound_eq_ok_iff.2 hsettings] at hbound
        cases hbound
    | ok bound =>
      have hboundMeant := RawSetting.toBound_eq_ok_iff.1 hbound
      cases hflag : (SettingField.raw environment overrides .skipBlankLines).toFlag with
      | error flaw =>
        refine .rejected [.logLevel, .maxDispatches] .skipBlankLines [] flaw rfl ?_ ?_
        · rw [List.forall_mem_cons, List.forall_mem_singleton]
          exact ⟨⟨⟨level, bound, false⟩, hlevelMeant⟩, ⟨⟨level, bound, false⟩, hboundMeant⟩⟩
        · rintro ⟨settings, hsettings⟩
          rw [RawSetting.toFlag_eq_ok_iff.2 hsettings] at hflag
          cases hflag
      | ok flag =>
        apply Resolved.loaded
        intro field
        cases field with
        | logLevel => exact hlevelMeant
        | maxDispatches => exact hboundMeant
        | skipBlankLines => exact RawSetting.toFlag_eq_ok_iff.1 hflag

end Resolution

variable {settings : Settings} {environment environment' : String → Option String}
  {overrides overrides' : String → Option RawSetting}

theorem first_of_resolve_error {fault : Fault} (h : resolve environment overrides = .error fault) :
    ∃ before field after, ∃ flaw : SettingFlaw,
      SettingField.all = before ++ field :: after ∧
      (∀ earlier ∈ before, earlier.Accepts (earlier.raw environment overrides)) ∧
      ¬ field.Accepts (field.raw environment overrides) ∧
      fault = .unplaced (.invalidSettings field.key flaw.message) := by
  have hresolved := resolved environment overrides
  rw [h] at hresolved
  cases hresolved with
  | rejected before field after flaw hall hbefore hfield =>
    exact ⟨before, field, after, flaw, hall, hbefore, hfield, rfl⟩

theorem holds_of_resolve_ok (h : resolve environment overrides = .ok settings)
    (field : SettingField) : settings.Holds (field.raw environment overrides) field := by
  have hresolved := resolved environment overrides
  rw [h] at hresolved
  cases hresolved with
  | loaded hholds => exact hholds field

theorem resolve_eq_ok_iff :
    resolve environment overrides = .ok settings ↔
      ∀ field : SettingField, settings.Holds (field.raw environment overrides) field := by
  constructor
  · exact holds_of_resolve_ok
  · intro h
    cases houtcome : resolve environment overrides with
    | error fault =>
      obtain ⟨_, field, _, _, _, _, hfield, _⟩ := first_of_resolve_error houtcome
      exact absurd ⟨settings, h field⟩ hfield
    | ok found =>
      -- A raw value means one thing only, so both settings agree in every field.
      have heq : found = settings := by
        apply eq_of_value
        intro field
        exact (holds_of_resolve_ok houtcome field).unique (h field)
      rw [heq]

/-- Only raw values count. -/
theorem resolve_congr
    (h : ∀ field : SettingField,
      field.raw environment' overrides' = field.raw environment overrides) :
    resolve environment' overrides' = resolve environment overrides := by
  rw [resolve_eq, resolve_eq, h, h, h]

theorem raw_of_override {field : SettingField} {value : RawSetting}
    (h : overrides field.key = some value) : field.raw environment overrides = value := by
  rw [SettingField.raw, h]

/-- The environment counts only for fields without an override. -/
theorem raw_congr {field : SettingField} (hoverride : overrides' field.key = overrides field.key)
    (henvironment : overrides field.key = none →
      environment' field.variableName = environment field.variableName) :
    field.raw environment' overrides' = field.raw environment overrides := by
  rw [SettingField.raw, SettingField.raw, hoverride]
  cases hkey : overrides field.key with
  | some value => rfl
  | none => rw [henvironment hkey]

/-- Settings are resolved field by field. They are turned down iff the raw value of some field means
nothing, and the first such field is named. Otherwise each field is what its own raw value means: a
bound that is read as a number which is not negative and a log level in capitals among those known.
Other keys have no effect, nor has the environment on fields that are overridden, and settings given
back as overrides are found again in every environment. -/
theorem settings_resolve_by_field (environment : String → Option String)
    (overrides : String → Option RawSetting) :
    ((∃ fault, resolve environment overrides = .error fault) ↔
      ∃ field : SettingField, ¬ field.Accepts (field.raw environment overrides)) ∧
    (∀ fault, resolve environment overrides = .error fault →
      ∃ before field after, ∃ flaw : SettingFlaw,
        SettingField.all = before ++ field :: after ∧
        (∀ earlier ∈ before, earlier.Accepts (earlier.raw environment overrides)) ∧
        ¬ field.Accepts (field.raw environment overrides) ∧
        fault = .unplaced (.invalidSettings field.key flaw.message)) ∧
    (∀ settings, resolve environment overrides = .ok settings ↔
      ∀ field : SettingField, settings.Holds (field.raw environment overrides) field) ∧
    (∀ settings, resolve environment overrides = .ok settings →
      (∃ n : Int, (SettingField.raw environment overrides .maxDispatches).toInt = .ok n ∧
        0 ≤ n ∧ settings.maxDispatches = n) ∧
      Text.upperCase settings.logLevel.word = settings.logLevel.word ∧
      settings.logLevel.word ∈
        ["CRITICAL", "FATAL", "ERROR", "WARN", "WARNING", "INFO", "DEBUG", "NOTSET"] ∧
      (∀ environment' overrides' settings' field,
        resolve environment' overrides' = .ok settings' →
        SettingField.raw environment' overrides' field =
          SettingField.raw environment overrides field →
        settings'.value field = settings.value field) ∧
      ∀ environment' overrides',
        (∀ field : SettingField, overrides' field.key = some (settings.value field)) →
        resolve environment' overrides' = .ok settings) ∧
    ∀ environment' overrides',
      (∀ field : SettingField, overrides' field.key = overrides field.key) →
      (∀ field : SettingField, overrides field.key = none →
        environment' field.variableName = environment field.variableName) →
      resolve environment' overrides' = resolve environment overrides := by
  refine ⟨⟨?_, ?_⟩, fun fault => first_of_resolve_error, fun settings => resolve_eq_ok_iff, ?_, ?_⟩
  · rintro ⟨fault, h⟩
    obtain ⟨_, field, _, _, _, _, hfield, _⟩ := first_of_resolve_error h
    exact ⟨field, hfield⟩
  · rintro ⟨field, hfield⟩
    cases houtcome : resolve environment overrides with
    | error fault => exact ⟨fault, rfl⟩
    | ok settings => exact absurd ⟨settings, holds_of_resolve_ok houtcome field⟩ hfield
  · intro settings h
    have hholds := holds_of_resolve_ok h
    refine ⟨?_, settings.logLevel.upperCase_word, ?_, ?_, ?_⟩
    · have hbound := RawSetting.toBound_eq_ok_iff.2 (hholds .maxDispatches)
      exact ⟨settings.maxDispatches, RawSetting.toInt_eq_ok_of_toBound hbound,
        Int.natCast_nonneg _, rfl⟩
    · cases settings.logLevel <;> simp [LogLevel.word]
    · intro environment' overrides' settings' field h' hraw
      have hholds' := holds_of_resolve_ok h' field
      rw [hraw] at hholds'
      exact hholds'.unique (hholds field)
    · intro environment' overrides' hgiven
      apply resolve_eq_ok_iff.2
      intro field
      rw [raw_of_override (hgiven field)]
      exact holds_value settings field
  · intro environment' overrides' hoverrides henvironment
    exact resolve_congr fun field => raw_congr (hoverrides field) (henvironment field)

/-- The bound is overridden, so its variable is not read; without the override it is the first field
to fail. -/
theorem settings_resolve_by_field_garbled_bound :
    let environment : String → Option String := fun name =>
      if name = "AEOLIS_MAX_DISPATCHES" then some "many"
      else if name = "AEOLIS_SKIP_BLANK_LINES" then some "Yes"
      else none
    let overrides : String → Option RawSetting := fun key =>
      if key = "log_level" then some (.text "debug")
      else if key = "max_dispatches" then some (.text " +0_07.0 ")
      else if key = "colour" then some .null
      else none
    resolve environment overrides = .ok ⟨.debug, 7, true⟩ ∧
    (∀ environment', resolve environment' (fun key =>
      if key = "log_level" then some (.text "DEBUG")
      else if key = "max_dispatches" then some (.int 7)
      else if key = "skip_blank_lines" then some (.bool true)
      else none) = .ok ⟨.debug, 7, true⟩) ∧
    ∃ flaw : SettingFlaw, resolve environment (fun _ => none) =
      .error (.unplaced (.invalidSettings "max_dispatches" flaw.message)) := by
  intro environment overrides
  have hresolve : resolve environment overrides = .ok ⟨.debug, 7, true⟩ := by decide +kernel
  obtain ⟨_, _, _, hgood, _⟩ := settings_resolve_by_field environment overrides
  obtain ⟨_, _, _, _, hback⟩ := hgood _ hresolve
  refine ⟨hresolve, ?_, ?_⟩
  · intro environment'
    apply hback
    intro field
    cases field <;> rfl
  · exact ⟨.notNumeral, by decide +kernel⟩

end Settings

end Dataflow
