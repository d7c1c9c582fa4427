import Mathlib.Data.List.TakeWhile
import Dataflow.Settings
import Dataflow.Text.Numeral

/-!
# Plain decimal numerals

A `Decimal` is a text of ASCII digits, at least one of them and at most `Text.digitLimit`. Integers
are read in two ways, one for arguments and operands and one for settings that are given as texts.
Both read a `Decimal` as the number that its digits denote (`Decimal.readInt_text`,
`Decimal.readWhole_text`). The second turns leading zeros down and leaves them out in another
attempt, which does not change the number (`exists_dropZerosBehind`).
-/

set_option autoImplicit false

namespace Dataflow

namespace Text

/-! ## Digits -/

/-- The value of an ASCII digit. -/
def digitValue (c : Char) : Nat := c.toNat - 0x30

/-- The number that ASCII digits denote. -/
def number (digits : List Char) : Nat := ofDigits (digits.map digitValue)

theorem number_cons_zero (digits : List Char) : number ('0' :: digits) = number digits := rfl

section Digit

variable {c : Char} (h : c.isDigit = true)
include h

theorem ne_of_isDigit {d : Char} (hd : d.isDigit = false) : c ≠ d := by
  rintro rfl
  rw [h] at hd
  cases hd

theorem not_isBlank_of_isDigit : isBlank c = false := by
  obtain ⟨hlow, hhigh⟩ : 48 ≤ c.toNat ∧ c.toNat ≤ 57 := Char.isDigit_iff_toNat.1 h
  rw [Bool.eq_false_iff]
  intro hblank
  simp only [isBlank, Bool.or_eq_true, Bool.and_eq_true, decide_eq_true_eq, beq_iff_eq] at hblank
  omega

theorem not_isMargin_of_isDigit : isMargin c = false := by
  rw [isMargin, not_isBlank_of_isDigit h, Bool.false_and]

theorem asciiDigit?_of_isDigit : asciiDigit? c = some (digitValue c) := if_pos h

/-- The run of the ASCII digits is the first one. -/
theorem decimalDigit?_of_isDigit : decimalDigit? c = some (digitValue c) := by
  obtain ⟨hlow, hhigh⟩ : 48 ≤ c.toNat ∧ c.toNat ≤ 57 := Char.isDigit_iff_toNat.1 h
  have hzeros : decimalZeros = 0x30 :: decimalZeros.tail := rfl
  rw [decimalDigit?, hzeros, List.find?_cons_of_pos]
  · rfl
  · simp only [Bool.and_eq_true, decide_eq_true_eq]
    omega

end Digit

/-! ## Texts of digits -/

section Digits

variable {digits : List Char} (h : ∀ c ∈ digits, c.isDigit = true)
include h

theorem readDigits_of_isDigit (hsome : digits ≠ []) :
    readDigits decimalDigit? digits = some (digits.map digitValue) := by
  induction digits with
  | nil => exact absurd rfl hsome
  | cons c rest ih =>
    obtain ⟨hc, hrest⟩ := List.forall_mem_cons.1 h
    have hdigit := decimalDigit?_of_isDigit hc
    cases rest with
    | nil => simp [readDigits, hdigit]
    | cons next rest =>
      -- no underscore stands between two digits
      have hnext : next ≠ '_' := ne_of_isDigit (hrest next List.mem_cons_self) rfl
      rw [readDigits, hdigit, ih hrest (List.cons_ne_nil _ _)]
      · rfl
      · simp
      · simpa using hnext

theorem mapM_asciiDigit? : digits.mapM asciiDigit? = some (digits.map digitValue) := by
  induction digits with
  | nil => rfl
  | cons c rest ih =>
    obtain ⟨hc, hrest⟩ := List.forall_mem_cons.1 h
    simp [List.mapM_cons, asciiDigit?_of_isDigit hc, ih hrest]

theorem trimMargin_of_isDigit : trimMargin digits = digits := by
  have hkeep : ∀ text : List Char, (∀ c ∈ text, c.isDigit = true) →
      text.dropWhile isMargin = text := by
    intro text htext
    cases text with
    | nil => rfl
    | cons c rest =>
      simp [not_isMargin_of_isDigit (htext c List.mem_cons_self)]
  rw [trimMargin, hkeep digits h, hkeep digits.reverse (by simpa using h), List.reverse_reverse]

theorem dropZeroFraction_of_isDigit : dropZeroFraction digits = digits := by
  have hnone : digits.dropWhile (· ≠ '.') = [] := by
    rw [List.dropWhile_eq_nil_iff]
    intro c hc
    have hpoint : c ≠ '.' := ne_of_isDigit (h c hc) rfl
    simpa using hpoint
  rw [dropZeroFraction, hnone]

theorem dropUnderscores_of_isDigit : dropUnderscores digits = digits := by
  have hall : digits.filter (· ≠ '_') = digits := by
    rw [List.filter_eq_self]
    intro c hc
    have hunderscore : c ≠ '_' := ne_of_isDigit (h c hc) rfl
    simpa using hunderscore
  rw [dropUnderscores, hall, ite_self]

end Digits

end Text

/-! ## Strict numerals -/

section Strict

variable {c : Char} {digits : List Char} (h : ∀ d ∈ c :: digits, d.isDigit = true)
include h

/-- Digits have no sign in front. -/
theorem splitMinus_of_isDigit : splitMinus (c :: digits) = (false, c :: digits) := by
  have hminus : c ≠ '-' := Text.ne_of_isDigit (h c List.mem_cons_self) rfl
  rw [splitMinus]
  intro rest heq
  exact hminus (List.cons.inj heq).1

/-- Digits are read as they stand if the first is no zero or the only one. -/
theorem readStrict_of_isDigit (hshort : (c :: digits).length ≤ Text.digitLimit)
    (hzero : c ≠ '0' ∨ digits = []) :
    readStrict (c :: digits) = .ok (Text.number (c :: digits)) := by
  have hall : (c :: digits).takeWhile Char.isDigit = c :: digits := List.takeWhile_eq_self_iff.2 h
  rw [readStrict, splitMinus_of_isDigit h]
  simp only [hall, List.head?_cons, Option.some.injEq]
  by_cases hfirst : c = '0'
  · obtain rfl := hzero.resolve_left (not_not_intro hfirst)
    rw [hfirst, if_pos rfl, if_pos rfl]
    rfl
  · rw [if_neg hfirst, if_neg (List.cons_ne_nil _ _), if_neg (Nat.not_lt.2 hshort),
      Text.mapM_asciiDigit? h]
    rfl

/-- Digits behind a leading zero are turned down. -/
theorem readStrict_leadingZero (hfirst : c = '0') (hmore : digits ≠ []) :
    readStrict (c :: digits) = .error .notNumeral := by
  rw [readStrict, splitMinus_of_isDigit h]
  simp [hfirst, hmore]

end Strict

/-! ## Leading zeros -/

/-- Leaving out the zeros behind a zero keeps the number. What is left starts with another digit or
is a single zero. -/
theorem exists_dropZerosBehind {digits : List Char} (h : ∀ c ∈ digits, c.isDigit = true) :
    ∃ c rest, dropZerosBehind '0' digits = some (c :: rest) ∧
      (∀ d ∈ c :: rest, d.isDigit = true) ∧ (c ≠ '0' ∨ rest = []) ∧
      Text.number (c :: rest) = Text.number digits ∧ rest.length ≤ digits.length := by
  induction digits with
  | nil => exact ⟨'0', [], rfl, List.forall_mem_singleton.2 rfl, Or.inr rfl, rfl, Nat.le_refl 0⟩
  | cons c digits ih =>
    obtain ⟨hc, hdigits⟩ := List.forall_mem_cons.1 h
    by_cases hzero : c = '0'
    · obtain ⟨d, rest, hdrop, hrest, hfirst, hnumber, hlength⟩ := ih hdigits
      rw [hzero, Text.number_cons_zero, dropZerosBehind, if_pos (Or.inl rfl)]
      exact ⟨d, rest, hdrop, hrest, hfirst, hnumber, Nat.le_succ_of_le hlength⟩
    · have hunderscore : c ≠ '_' := Text.ne_of_isDigit hc rfl
      rw [dropZerosBehind, if_neg (not_or.2 ⟨hzero, hunderscore⟩), if_pos (Or.inl hc)]
      exact ⟨c, digits, rfl, h, Or.inl hzero, rfl, Nat.le_succ _⟩

/-- A numeral with leading zeros is tidied to one that is read as the same number. -/
theorem readStrict_tidyNumeral {digits : List Char} (h : ∀ c ∈ digits, c.isDigit = true)
    (hshort : digits.length < Text.digitLimit) :
    (tidyNumeral ('0' :: digits)).map readStrict = some (.ok (Text.number digits)) := by
  obtain ⟨c, rest, hdrop, hrest, hfirst, hnumber, hlength⟩ := exists_dropZerosBehind h
  have hall : ∀ d ∈ '0' :: digits, d.isDigit = true := List.forall_mem_cons.2 ⟨by decide, h⟩
  have htidy : tidyUnsigned false ('0' :: digits) = some (c :: rest) := by
    rw [tidyUnsigned, dropLeadingZeros, hdrop, Option.map_some,
      Text.dropZeroFraction_of_isDigit hrest, Text.dropUnderscores_of_isDigit hrest]
    rfl
  have hread := readStrict_of_isDigit hrest (Nat.succ_le_of_lt (Nat.lt_of_le_of_lt hlength hshort))
    hfirst
  have hplus : dropPlus ('0' :: digits) = some ('0' :: digits) := rfl
  rw [tidyNumeral, Text.trimMargin_of_isDigit hall, hplus, Option.bind_some,
    splitMinus_of_isDigit hall]
  simp only [htidy, Option.map_some, hread, hnumber]

/-! ## Decimals -/

/-- Some ASCII digits, and no more than a numeral may have. -/
structure Decimal where
  text : String
  nonempty : text.toList ≠ []
  digits : ∀ c ∈ text.toList, c.isDigit = true
  short : text.toList.length ≤ Text.digitLimit
  deriving DecidableEq

namespace Decimal

/-- The number that a decimal denotes. -/
def value (decimal : Decimal) : Nat := Text.number decimal.text.toList

/-- The decimal of a number that is not too large. -/
def ofNat (n : Nat) (h : (Nat.toDigits 10 n).length ≤ Text.digitLimit) : Decimal where
  text := Nat.repr n
  nonempty := by simp
  digits := by
    intro c hc
    rw [Nat.toList_repr] at hc
    exact Nat.isDigit_of_mem_toDigits (by decide) (by decide) hc
  short := by rwa [Nat.toList_repr]

/-- A decimal can be given as an argument. -/
theorem readInt_text (decimal : Decimal) :
    Text.readInt decimal.text = some (decimal.value : Int) := by
  have hsign : Text.readSign decimal.text.toList = (false, decimal.text.toList) := by
    cases hdigits : decimal.text.toList with
    | nil => rfl
    | cons c rest =>
      have hc : c.isDigit = true := decimal.digits c (by simp [hdigits])
      have hminus : c ≠ '-' := Text.ne_of_isDigit hc rfl
      have hplus : c ≠ '+' := Text.ne_of_isDigit hc rfl
      simp [Text.readSign, hminus, hplus]
  rw [Text.readInt, Text.trimMargin_of_isDigit decimal.digits, hsign]
  simp only [Text.readDigits_of_isDigit decimal.digits decimal.nonempty, List.length_map,
    if_pos decimal.short]
  rfl

/-- A decimal can be given as a setting. -/
theorem readWhole_text (decimal : Decimal) : readWhole decimal.text = .ok decimal.value := by
  have hdigits := decimal.digits
  have hshort := decimal.short
  rw [readWhole, value]
  cases htext : decimal.text.toList with
  | nil => exact absurd htext decimal.nonempty
  | cons c rest =>
    rw [htext] at hdigits hshort
    by_cases hplain : c ≠ '0' ∨ rest = []
    · rw [readStrict_of_isDigit hdigits hshort hplain]
    · obtain ⟨hzero, hmore⟩ := not_or.1 hplain
      obtain rfl := not_not.1 hzero
      rw [readStrict_leadingZero hdigits rfl hmore]
      simp only [readStrict_tidyNumeral (List.forall_mem_cons.1 hdigits).2 hshort,
        Text.number_cons_zero]

end Decimal

end Dataflow
