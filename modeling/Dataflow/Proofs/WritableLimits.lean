import Dataflow.CommandLine
import Dataflow.Proofs.Resolution

/-!
# Limits that the command line can set

A number that is read has no more digits than can be written (`Text.withinDigitLimit_of_readInt`,
`withinDigitLimit_of_readWhole`). The command line reads its dispatch limit from an argument or from
the environment, so a run that it asks for always has a limit that can be written
(`CommandLine.withinDigitLimit_of_load`). Only callers that pass a number along can exceed this.
-/

set_option autoImplicit false

namespace Dataflow

/-! ## Numbers that are read -/

namespace Text

theorem Sign.natAbs_apply (sign : Sign) (n : Nat) : (sign.apply n).natAbs = n := by
  cases sign with
  | none => exact Int.natAbs_natCast n
  | plus => exact Int.natAbs_natCast n
  | minus => exact (Int.natAbs_neg n).trans (Int.natAbs_natCast n)

theorem ofDigits_lt {digits : List Nat} (hdigits : ∀ d ∈ digits, d < 10) {limit : Nat}
    (hshort : digits.length ≤ limit) : ofDigits digits < Nat.pow 10 limit :=
  calc ofDigits digits
      = Nat.ofDigits 10 digits.reverse := ofDigits_eq digits
    _ < 10 ^ digits.reverse.length :=
        Nat.ofDigits_lt_base_pow_length (by decide) fun d hd => hdigits d (List.mem_reverse.1 hd)
    _ = 10 ^ digits.length := by rw [List.length_reverse]
    _ ≤ 10 ^ limit := Nat.pow_le_pow_right (by decide) hshort

/-- A number of few digits stays below the power of ten that the digit limit allows. -/
theorem withinDigitLimit_ofDigits (sign : Sign) {digits : List Nat} (hdigits : ∀ d ∈ digits, d < 10)
    (hshort : digits.length ≤ digitLimit) :
    withinDigitLimit (sign.apply (ofDigits digits)) = true := by
  apply decide_eq_true
  rw [Sign.natAbs_apply]
  exact ofDigits_lt hdigits hshort

theorem lt_of_mem_digits {chars : List Char} {digits : List Nat}
    (h : List.Forall₂ IsDigit chars digits) : ∀ d ∈ digits, d < 10 := by
  induction h with
  | nil => exact List.forall_mem_nil _
  | cons hd _ ih => exact List.forall_mem_cons.2 ⟨hd.1, ih⟩

theorem withinDigitLimit_of_readInt {text : String} {n : Int} (h : readInt text = some n) :
    withinDigitLimit n = true := by
  obtain ⟨numeral, -, rfl⟩ := readInt_eq_some_iff.1 h
  rw [Numeral.value, ← ofDigits_eq]
  exact withinDigitLimit_ofDigits numeral.sign (lt_of_mem_digits numeral.grouped.isDigit)
    numeral.short

end Text

theorem PlainDigits.withinDigitLimit {digits : List Char} (h : PlainDigits digits)
    (sign : Text.Sign) : Text.withinDigitLimit (sign.apply (Text.number digits)) = true := by
  refine Text.withinDigitLimit_ofDigits sign ?_ ?_
  · intro d hd
    obtain ⟨c, hc, rfl⟩ := List.mem_map.1 hd
    exact (Text.decimalDigit?_eq_some_iff.1 (Text.decimalDigit?_of_isDigit (h.isDigit c hc))).1
  · rw [List.length_map]
    exact h.short

theorem withinDigitLimit_of_readWhole {content : String} {n : Int}
    (h : readWhole content = .ok n) : Text.withinDigitLimit n = true := by
  have hwhole := readWhole_eq_ok_iff.1 h
  generalize content.toList = text at hwhole
  cases hwhole with
  | intro hbefore hcore hafter =>
    cases hcore with
    | plain hzeros htext hdigits hfraction => exact hdigits.withinDigitLimit _
    | dashed hsign hzeros hsome hmark htext hdigits hfraction =>
      exact hdigits.withinDigitLimit .minus

/-! ## Arguments -/

namespace Arguments

/-- A bound that was read from an argument can be written. -/
def Progress.Writable (progress : Progress) : Prop :=
  ∀ n, progress.maxDispatches = some (.number n) → Text.withinDigitLimit n = true

namespace Progress

theorem writable_start : start.Writable := nofun

theorem writable_setBound {progress later : Progress} {value : String}
    (hset : progress.setBound value = .ok later) : later.Writable := by
  rw [setBound] at hset
  split at hset
  · obtain rfl := Except.ok.inj hset
    exact nofun
  · split at hset
    · next n hread =>
      obtain rfl := Except.ok.inj hset
      intro m hm
      obtain rfl := BoundValue.number.inj (Option.some.inj hm)
      exact Text.withinDigitLimit_of_readInt hread
    · cases hset

/-- Of the options with a value of their own only the bound does not stop the reading. -/
theorem writable_setExplicit {progress later : Progress} {spelling : String} {name : OptionName}
    {value : String} (hset : progress.setExplicit spelling name value = .ok later) :
    later.Writable := by
  rw [setExplicit] at hset
  split at hset
  · exact writable_setBound hset
  · split at hset
    · cases hset
    · cases hset

theorem Writable.set {progress later : Progress} (h : progress.Writable) {name : OptionName}
    (hset : progress.set name = .ok later) : later.Writable := by
  cases name with
  | help | maxDispatches => cases hset
  | trace | skipBlankLines | dumpState =>
    obtain rfl := Except.ok.inj hset
    exact h

/-- Every argument leaves a bound that can be written, if there was no other before. -/
theorem Writable.read {progress later : Progress} (h : progress.Writable)
    {marked : List (Mark × String)} (hread : progress.read marked = .ok later) :
    later.Writable := by
  fun_induction Progress.read progress marked with
  | case1 progress =>
    obtain rfl := Except.ok.inj hread
    exact h
  -- an option with a value of its own
  | case3 progress spelling name value argument rest next hset ih =>
    exact ih (writable_setExplicit hset) hread
  -- the bound, with its value in the next argument
  | case5 progress spelling argument value rest next hset ih =>
    exact ih (writable_setBound hset) hread
  -- an option without a value
  | case7 progress spelling name argument rest hvalue next hset ih => exact ih (h.set hset) hread
  | case4 | case6 | case8 => cases hread
  -- everything else is a file or belongs to nothing, and leaves the bound as it is
  | case2 progress argument rest ih => exact ih h hread
  | case9 progress argument path rest hpath ih => exact ih h hread
  | case10 progress argument separator rest hpath ih => exact ih h hread
  | case11 progress argument rest hrest hpath ih => exact ih h hread
  | case12 progress argument path rest hpath ih => exact ih h hread
  | case13 progress argument rest hrest ih => exact ih h hread

end Progress

/-- The bound that a command line asks for can be written. -/
theorem withinDigitLimit_of_parse {arguments : List String} {options : Options}
    (h : parse arguments = .ok options) {n : Int}
    (hbound : options.maxDispatches = some (.number n)) : Text.withinDigitLimit n = true := by
  rw [parse] at h
  split at h
  · cases h
  · split at h
    · cases h
    · next progress hread =>
      have hwritable := Progress.writable_start.read hread
      rw [Progress.finish] at h
      split at h
      · cases h
      · split at h
        · obtain rfl := Except.ok.inj h
          exact hwritable n hbound
        · cases h

end Arguments

/-! ## Settings -/

/-- Settings that load have the bound that is read from its raw value. -/
theorem Settings.toInt_of_load {environment : Environment} {overrides : Overrides}
    {settings : Settings} (h : load environment overrides = .ok settings) :
    (rawSetting overrides.maxDispatches environment.maxDispatches "0").toInt =
      .ok (settings.maxDispatches : Int) := by
  rw [load] at h
  split at h
  · cases h
  · split at h
    · cases h
    · next bound hbound =>
      split at h
      · cases h
      · obtain rfl := Except.ok.inj h
        apply RawSetting.toInt_eq_ok_of_toBound
        generalize (rawSetting _ _ _).toBound = read at hbound ⊢
        cases read with
        | error flaw => cases hbound
        | ok n => exact congrArg Except.ok (Except.ok.inj hbound)

/-- Every run that a command line asks for has a dispatch limit that can be written. -/
theorem CommandLine.withinDigitLimit_of_load {arguments : List String} {options : Options}
    (hparse : Arguments.parse arguments = .ok options) {environment : Environment}
    {settings : Settings} (hload : Settings.load environment (overrides options) = .ok settings) :
    Text.withinDigitLimit settings.maxDispatches = true := by
  have hread := Settings.toInt_of_load hload
  cases hoption : options.maxDispatches with
  | none =>
    -- the environment or the default gives a text
    simp only [overrides, hoption] at hread
    exact withinDigitLimit_of_readWhole hread
  | some value =>
    simp only [overrides, hoption] at hread
    cases value with
    | empty => cases hread
    | number n =>
      obtain rfl := Except.ok.inj hread
      exact Arguments.withinDigitLimit_of_parse hparse hoption

end Dataflow
