import Mathlib.Data.List.Forall2
import Mathlib.Data.Nat.Digits.Defs
import Dataflow.Proofs.Numerals

/-!
# The grammar of numerals

A `Numeral` is a numeral taken apart: margins at both ends, a sign or none, and groups of decimal
digits of any script with one underscore between two groups. It has at most `digitLimit` digits, and
its value is what they denote in the decimal system. The texts that are read as integers are exactly
the texts of numerals, and they are read as their values (`readInt_eq_some_iff`). The text that an
integer is written as is a numeral of one group, if the integer has no more digits than a numeral may
have, and is read as this integer (`readInt_writeInt`).

The characters of a numeral can be told apart: no digit is a blank, a sign or an underscore
(`IsDigit.distinct`), so that the margins end where the sign or the first digit stands, and the
groups where an underscore does.
-/

set_option autoImplicit false

namespace Dataflow.Text

/-! ## Digits of all scripts -/

/-- A decimal digit of some script and its value, which is its distance from the zero of the
script. -/
def IsDigit (c : Char) (d : Nat) : Prop :=
  d < 10 ∧ ∃ base ∈ decimalZeros, c.toNat = base + d

/-- The digits of different scripts do not overlap. -/
theorem decimalZeros_apart :
    ∀ base ∈ decimalZeros, ∀ other ∈ decimalZeros,
      base < other + 10 → other < base + 10 → base = other := by
  decide +kernel

theorem decimalDigit?_eq_some_iff {c : Char} {d : Nat} : decimalDigit? c = some d ↔ IsDigit c d := by
  have hholds : ∀ base, (decide (base ≤ c.toNat) && decide (c.toNat < base + 10)) = true ↔
      base ≤ c.toNat ∧ c.toNat < base + 10 := by
    intro base
    rw [Bool.and_eq_true, decide_eq_true_eq, decide_eq_true_eq]
  rw [decimalDigit?, Option.map_eq_some_iff]
  constructor
  · rintro ⟨base, hfind, rfl⟩
    have hrange := List.find?_some hfind
    obtain ⟨hlow, hhigh⟩ := (hholds base).1 hrange
    exact ⟨by omega, base, List.mem_of_find?_eq_some hfind, by omega⟩
  · rintro ⟨hd, base, hbase, hc⟩
    cases hfind : decimalZeros.find? fun base => base ≤ c.toNat && c.toNat < base + 10 with
    | none =>
      refine absurd ((hholds base).2 ⟨?_, ?_⟩) (List.find?_eq_none.1 hfind base hbase)
      · omega
      · omega
    | some other =>
      have hrange := List.find?_some hfind
      obtain ⟨hlow, hhigh⟩ := (hholds other).1 hrange
      -- the search takes the first run that the character lies in, and there is only one
      have hsame : base = other := by
        apply decimalZeros_apart base hbase other (List.mem_of_find?_eq_some hfind)
        · omega
        · omega
      exact ⟨other, rfl, by omega⟩

theorem decimalZeros_distinct :
    ∀ base ∈ decimalZeros, ∀ d < 10, isBlank (Char.ofNat (base + d)) = false ∧
      Char.ofNat (base + d) ≠ '+' ∧ Char.ofNat (base + d) ≠ '-' ∧ Char.ofNat (base + d) ≠ '_' := by
  decide +kernel

/-- No digit of any script is a blank, a sign or an underscore. -/
theorem IsDigit.distinct {c : Char} {d : Nat} (h : IsDigit c d) :
    isBlank c = false ∧ c ≠ '+' ∧ c ≠ '-' ∧ c ≠ '_' := by
  obtain ⟨hd, base, hbase, hc⟩ := h
  have htable := decimalZeros_distinct base hbase d hd
  rwa [← hc, Char.ofNat_toNat] at htable

/-- Each character of a list of digits has a value. -/
theorem exists_value_of_mem {chars : List Char} {digits : List Nat} {c : Char}
    (h : List.Forall₂ IsDigit chars digits) (hc : c ∈ chars) : ∃ d, IsDigit c d := by
  induction h with
  | nil => cases hc
  | cons hd _ ih =>
    rcases List.mem_cons.1 hc with rfl | hc
    · exact ⟨_, hd⟩
    · exact ih hc

/-! ## Numerals -/

/-- What stands in front of the digits of a numeral. -/
inductive Sign where
  | none
  | plus
  | minus
  deriving DecidableEq, Repr

namespace Sign

/-- The characters of a sign. -/
def text : Sign → List Char
  | none => []
  | plus => ['+']
  | minus => ['-']

/-- A natural number under a sign. -/
def apply : Sign → Nat → Int
  | none, n => n
  | plus, n => n
  | minus, n => -n

end Sign

/-- Groups of digits, none of them empty, and the values of all the digits. -/
structure Grouped (groups : List (List Char)) (digits : List Nat) : Prop where
  ne_nil : groups ≠ []
  group_ne_nil : ∀ group ∈ groups, group ≠ []
  isDigit : List.Forall₂ IsDigit groups.flatten digits

/-- A numeral, taken apart. -/
structure Numeral where
  before : List Char
  sign : Sign
  groups : List (List Char)
  digits : List Nat
  after : List Char
  before_margin : ∀ c ∈ before, isMargin c = true
  grouped : Grouped groups digits
  short : digits.length ≤ digitLimit
  after_margin : ∀ c ∈ after, isMargin c = true

namespace Numeral

/-- The sign and the digits of a numeral, with an underscore between two groups. -/
def core (numeral : Numeral) : List Char := numeral.sign.text ++ ['_'].intercalate numeral.groups

/-- The text of a numeral. -/
def text (numeral : Numeral) : List Char := numeral.before ++ numeral.core ++ numeral.after

/-- The integer that a numeral denotes. -/
def value (numeral : Numeral) : Int := numeral.sign.apply (Nat.ofDigits 10 numeral.digits.reverse)

end Numeral

/-! ## Groups of digits -/

namespace Grouped

variable {c : Char} {d : Nat} {group : List Char} {groups : List (List Char)} {digits : List Nat}

theorem single (h : IsDigit c d) : Grouped [[c]] [d] where
  ne_nil := List.cons_ne_nil _ _
  group_ne_nil := List.forall_mem_singleton.2 (List.cons_ne_nil _ _)
  isDigit := .cons h .nil

/-- A digit in front makes a group of its own. -/
theorem apart (h : IsDigit c d) (hgroups : Grouped groups digits) :
    Grouped ([c] :: groups) (d :: digits) where
  ne_nil := List.cons_ne_nil _ _
  group_ne_nil := List.forall_mem_cons.2 ⟨List.cons_ne_nil _ _, hgroups.group_ne_nil⟩
  isDigit := .cons h hgroups.isDigit

/-- A digit in front joins the first group. -/
theorem extend (h : IsDigit c d) (hgroups : Grouped (group :: groups) digits) :
    Grouped ((c :: group) :: groups) (d :: digits) where
  ne_nil := List.cons_ne_nil _ _
  group_ne_nil :=
    List.forall_mem_cons.2 ⟨List.cons_ne_nil _ _, (List.forall_mem_cons.1 hgroups.group_ne_nil).2⟩
  isDigit := .cons h hgroups.isDigit

/-- A character of joined groups is an underscore or a digit. -/
theorem cases_of_mem (h : Grouped groups digits) (hc : c ∈ ['_'].intercalate groups) :
    c = '_' ∨ ∃ d, IsDigit c d := by
  have hparts : c = '_' ∨ c ∈ groups.flatten := by
    clear h
    induction groups with
    | nil => cases hc
    | cons group groups ih =>
      cases groups with
      | nil =>
        rw [List.intercalate_singleton] at hc
        exact Or.inr (List.mem_flatten_of_mem List.mem_cons_self hc)
      | cons next groups =>
        rw [List.intercalate_cons_cons, List.mem_append, List.mem_append] at hc
        rcases hc with (hgroup | hmark) | hrest
        · exact Or.inr (List.mem_flatten_of_mem List.mem_cons_self hgroup)
        · exact Or.inl (List.mem_singleton.1 hmark)
        · exact (ih hrest).imp_right (List.mem_append_right group)
  exact hparts.imp_right (exists_value_of_mem h.isDigit)

theorem intercalate_extend (c : Char) (group : List Char) (groups : List (List Char)) :
    ['_'].intercalate ((c :: group) :: groups) = c :: ['_'].intercalate (group :: groups) := by
  cases groups with
  | nil => rw [List.intercalate_singleton, List.intercalate_singleton]
  | cons next groups =>
    rw [List.intercalate_cons_cons, List.intercalate_cons_cons]
    rfl

/-- Groups are read digit by digit. -/
theorem readDigits_eq (h : Grouped groups digits) :
    readDigits decimalDigit? (['_'].intercalate groups) = some digits := by
  -- the induction takes one digit at a time from the front of the first group
  induction digits generalizing groups with
  | nil =>
    obtain ⟨group, rest, rfl⟩ := List.exists_cons_of_ne_nil h.ne_nil
    have hempty := List.forall₂_nil_right_iff.1 h.isDigit
    rw [List.flatten_cons, List.append_eq_nil_iff] at hempty
    exact absurd hempty.1 (h.group_ne_nil group List.mem_cons_self)
  | cons d digits ih =>
    obtain ⟨group, rest, rfl⟩ := List.exists_cons_of_ne_nil h.ne_nil
    obtain ⟨hgroup, hrest⟩ := List.forall_mem_cons.1 h.group_ne_nil
    obtain ⟨c, group, rfl⟩ := List.exists_cons_of_ne_nil hgroup
    obtain ⟨hc, hdigits⟩ := List.forall₂_cons.1 h.isDigit
    have hread := decimalDigit?_eq_some_iff.2 hc
    rcases group with _ | ⟨next, group⟩
    · rcases rest with _ | ⟨second, rest⟩
      · obtain rfl := List.forall₂_nil_left_iff.1 hdigits
        simp [List.intercalate_singleton, readDigits, hread]
      · have hbehind := ih ⟨List.cons_ne_nil _ _, hrest, hdigits⟩
        rw [List.intercalate_cons_cons]
        simp only [List.cons_append, List.nil_append, readDigits, hread, hbehind]
    · have hbehind := @ih ((next :: group) :: rest)
        ⟨List.cons_ne_nil _ _, List.forall_mem_cons.2 ⟨List.cons_ne_nil _ _, hrest⟩, hdigits⟩
      -- the digit behind this one is no underscore
      have hnext : next ≠ '_' := by
        cases hdigits with
        | cons hfirst _ => exact hfirst.distinct.2.2.2
      rw [intercalate_extend] at hbehind
      rw [intercalate_extend, intercalate_extend, readDigits, hread, hbehind]
      · simp
      · simpa using hnext

end Grouped

/-- The digits that are read stand in groups with single underscores between them. -/
theorem exists_grouped_of_readDigits {chars : List Char} {digits : List Nat}
    (h : readDigits decimalDigit? chars = some digits) :
    ∃ groups, Grouped groups digits ∧ ['_'].intercalate groups = chars := by
  fun_induction readDigits decimalDigit? chars generalizing digits with
  | case1 => cases h
  | case2 c =>
    obtain ⟨d, hd, rfl⟩ := Option.map_eq_some_iff.1 h
    exact ⟨[[c]], .single (decimalDigit?_eq_some_iff.1 hd), List.intercalate_singleton⟩
  | case3 c rest d ds hrest hd ih =>
    obtain rfl := Option.some.inj h
    obtain ⟨groups, hgrouped, rfl⟩ := ih hrest
    refine ⟨[c] :: groups, .apart (decimalDigit?_eq_some_iff.1 hd) hgrouped, ?_⟩
    rw [List.intercalate_cons_of_ne_nil hgrouped.ne_nil]
    rfl
  | case4 => cases h
  | case5 c rest _ _ d ds hrest hd ih =>
    obtain rfl := Option.some.inj h
    obtain ⟨groups, hgrouped, rfl⟩ := ih hrest
    obtain ⟨group, others, rfl⟩ := List.exists_cons_of_ne_nil hgrouped.ne_nil
    exact ⟨(c :: group) :: others, .extend (decimalDigit?_eq_some_iff.1 hd) hgrouped,
      Grouped.intercalate_extend c group others⟩
  | case6 => cases h

/-! ## Margins and signs -/

/-- What trimming takes away is a margin at each end. -/
theorem exists_margins (chars : List Char) :
    ∃ before after, chars = before ++ trimMargin chars ++ after ∧
      (∀ c ∈ before, isMargin c = true) ∧ ∀ c ∈ after, isMargin c = true := by
  refine ⟨chars.takeWhile isMargin,
    ((chars.dropWhile isMargin).reverse.takeWhile isMargin).reverse, ?_, ?_, ?_⟩
  · rw [trimMargin, List.append_assoc, ← List.reverse_append, List.takeWhile_append_dropWhile,
      List.reverse_reverse, List.takeWhile_append_dropWhile]
  · intro c hc
    exact List.mem_takeWhile_imp hc
  · intro c hc
    exact List.mem_takeWhile_imp (List.mem_reverse.1 hc)

/-- Trimming takes the margins away from characters of which none is a margin. -/
theorem trimMargin_append {before core after : List Char}
    (hbefore : ∀ c ∈ before, isMargin c = true) (hcore : ∀ c ∈ core, isMargin c = false)
    (hafter : ∀ c ∈ after, isMargin c = true) (hsome : core ≠ []) :
    trimMargin (before ++ core ++ after) = core := by
  have hkeep : ∀ chars rest : List Char, chars ≠ [] → (∀ c ∈ chars, isMargin c = false) →
      (chars ++ rest).dropWhile isMargin = chars ++ rest := by
    intro chars rest hne hall
    obtain ⟨c, chars, rfl⟩ := List.exists_cons_of_ne_nil hne
    rw [List.cons_append, List.dropWhile_cons_of_neg]
    simp [hall c List.mem_cons_self]
  have hbehind : ∀ c ∈ after.reverse, isMargin c = true := by
    intro c hc
    exact hafter c (List.mem_reverse.1 hc)
  have hreversed : core.reverse.dropWhile isMargin = core.reverse := by
    have hall := hkeep core.reverse [] (List.reverse_ne_nil_iff.2 hsome)
      fun c hc => hcore c (List.mem_reverse.1 hc)
    rwa [List.append_nil] at hall
  rw [trimMargin, List.append_assoc, List.dropWhile_append_of_pos hbefore,
    hkeep core after hsome hcore, List.reverse_append, List.dropWhile_append_of_pos hbehind,
    hreversed, List.reverse_reverse]

/-- Every text starts with a sign or none. -/
theorem exists_sign (chars : List Char) :
    ∃ sign : Sign, chars = sign.text ++ (readSign chars).2 ∧
      ∀ n, signed (readSign chars).1 n = sign.apply n := by
  rw [readSign.eq_def]
  split
  · exact ⟨.minus, rfl, fun n => rfl⟩
  · exact ⟨.plus, rfl, fun n => rfl⟩
  · exact ⟨.none, rfl, fun n => rfl⟩

theorem readSign_append (sign : Sign) {c : Char} (hplus : c ≠ '+') (hminus : c ≠ '-')
    (rest : List Char) :
    (readSign (sign.text ++ c :: rest)).2 = c :: rest ∧
      ∀ n, signed (readSign (sign.text ++ c :: rest)).1 n = sign.apply n := by
  cases sign with
  | plus => exact ⟨rfl, fun n => rfl⟩
  | minus => exact ⟨rfl, fun n => rfl⟩
  | none =>
    have hread : readSign (c :: rest) = (false, c :: rest) := by
      simp [readSign, hplus, hminus]
    rw [Sign.text, List.nil_append, hread]
    exact ⟨rfl, fun n => rfl⟩

theorem ofDigits_eq (digits : List Nat) : ofDigits digits = Nat.ofDigits 10 digits.reverse := by
  rw [Nat.ofDigits_eq_foldr, List.foldr_reverse, ofDigits]
  simp only [Nat.cast_id, Nat.add_comm]

/-! ## Reading -/

namespace Numeral

/-- The digits of a numeral start with a digit. -/
theorem exists_head (numeral : Numeral) :
    ∃ c rest, ['_'].intercalate numeral.groups = c :: rest ∧ ∃ d, IsDigit c d := by
  obtain ⟨group, groups, hgroups⟩ := List.exists_cons_of_ne_nil numeral.grouped.ne_nil
  obtain ⟨c, rest, rfl⟩ :=
    List.exists_cons_of_ne_nil (numeral.grouped.group_ne_nil group (by simp [hgroups]))
  have hdigits := numeral.grouped.isDigit
  rw [hgroups] at hdigits ⊢
  obtain ⟨d, digits, hd, -, -⟩ := List.forall₂_cons_left_iff.1 hdigits
  exact ⟨c, _, Grouped.intercalate_extend c rest groups, d, hd⟩

/-- No character between the margins is a margin. -/
theorem not_isMargin_of_mem_core (numeral : Numeral) :
    ∀ c ∈ numeral.core, isMargin c = false := by
  intro c hc
  rcases List.mem_append.1 hc with hsign | hbody
  · cases hkind : numeral.sign with
    | none =>
      rw [hkind] at hsign
      cases hsign
    | plus =>
      rw [hkind] at hsign
      obtain rfl := List.mem_singleton.1 hsign
      rfl
    | minus =>
      rw [hkind] at hsign
      obtain rfl := List.mem_singleton.1 hsign
      rfl
  · rcases numeral.grouped.cases_of_mem hbody with rfl | ⟨d, hd⟩
    · rfl
    · rw [isMargin, hd.distinct.1, Bool.false_and]

theorem readInt_text (numeral : Numeral) :
    readInt (String.ofList numeral.text) = some numeral.value := by
  obtain ⟨c, rest, hbody, d, hd⟩ := numeral.exists_head
  have hcore : numeral.core ≠ [] := by
    rw [core, hbody]
    exact List.append_ne_nil_of_right_ne_nil _ (List.cons_ne_nil _ _)
  have htrim := trimMargin_append numeral.before_margin numeral.not_isMargin_of_mem_core
    numeral.after_margin hcore
  obtain ⟨hrest, hsign⟩ := readSign_append numeral.sign hd.distinct.2.1 hd.distinct.2.2.1 rest
  rw [← hbody] at hrest hsign
  have hread := numeral.grouped.readDigits_eq
  rw [readInt, String.toList_ofList, text, htrim, core]
  simp only [hrest, hread, if_pos numeral.short, hsign, ofDigits_eq]
  rfl

end Numeral

/-- A text is read as an integer just when it is the text of a numeral that has this value. -/
theorem readInt_eq_some_iff {text : String} {n : Int} :
    readInt text = some n ↔ ∃ numeral : Numeral, text.toList = numeral.text ∧ n = numeral.value := by
  constructor
  · intro h
    obtain ⟨before, after, hmargins, hbefore, hafter⟩ := exists_margins text.toList
    obtain ⟨sign, hsign, hsigned⟩ := exists_sign (trimMargin text.toList)
    rw [readInt] at h
    dsimp only at h
    split at h
    · next digits hdigits =>
      split at h
      · next hshort =>
        obtain ⟨groups, hgrouped, hgroups⟩ := exists_grouped_of_readDigits hdigits
        refine ⟨⟨before, sign, groups, digits, after, hbefore, hgrouped, hshort, hafter⟩, ?_, ?_⟩
        · rw [Numeral.text, Numeral.core, hgroups, ← hsign]
          exact hmargins
        · rw [Numeral.value, ← ofDigits_eq, ← hsigned]
          exact (Option.some.inj h).symm
      · cases h
    · cases h
  · rintro ⟨numeral, htext, rfl⟩
    rw [← numeral.readInt_text, ← htext, String.ofList_toList]

/-! ## Writing -/

theorem number_toDigits (n : Nat) : number (Nat.toDigits 10 n) = n := by
  rw [number, ofDigits, List.foldl_map]
  exact Nat.ofDigitChars_ten_toDigits

/-- The numeral that a number is written as, under a sign. -/
def Numeral.ofNat (sign : Sign) (n : Nat) (h : (Nat.toDigits 10 n).length ≤ digitLimit) :
    Numeral where
  before := []
  sign := sign
  groups := [Nat.toDigits 10 n]
  digits := (Nat.toDigits 10 n).map digitValue
  after := []
  before_margin := nofun
  grouped := by
    refine ⟨List.cons_ne_nil _ _, List.forall_mem_singleton.2 Nat.toDigits_ne_nil, ?_⟩
    rw [List.flatten_singleton, List.forall₂_map_right_iff, List.forall₂_same]
    intro c hc
    have hdigit := Nat.isDigit_of_mem_toDigits (by decide) (by decide) hc
    exact decimalDigit?_eq_some_iff.1 (decimalDigit?_of_isDigit hdigit)
  short := by rwa [List.length_map]
  after_margin := nofun

theorem Numeral.text_ofNat (sign : Sign) (n : Nat) (h : (Nat.toDigits 10 n).length ≤ digitLimit) :
    (ofNat sign n h).text = sign.text ++ Nat.toDigits 10 n := by
  rw [text, core, ofNat, List.intercalate_singleton, List.nil_append, List.append_nil]

theorem Numeral.value_ofNat (sign : Sign) (n : Nat) (h : (Nat.toDigits 10 n).length ≤ digitLimit) :
    (ofNat sign n h).value = sign.apply n := by
  rw [value, ← ofDigits_eq]
  exact congrArg sign.apply (number_toDigits n)

/-- The number of decimal digits of an integer. -/
def digitCount (n : Int) : Nat := (Nat.toDigits 10 n.natAbs).length

/-- An integer that keeps to the digit limit is read back from the text that it is written as. -/
theorem readInt_writeInt {n : Int} (h : digitCount n ≤ digitLimit) :
    readInt (writeInt n) = some n := by
  rw [readInt_eq_some_iff]
  cases n with
  | ofNat k =>
    have hshort : (Nat.toDigits 10 k).length ≤ digitLimit := h
    refine ⟨.ofNat .none k hshort, ?_, ?_⟩
    · rw [Numeral.text_ofNat]
      exact Nat.toList_repr
    · rw [Numeral.value_ofNat]
      rfl
  | negSucc k =>
    have hshort : (Nat.toDigits 10 (k + 1)).length ≤ digitLimit := h
    refine ⟨.ofNat .minus (k + 1) hshort, ?_, ?_⟩
    · rw [Numeral.text_ofNat, writeInt, String.toList_append, Nat.toList_repr]
      rfl
    · rw [Numeral.value_ofNat]
      rfl

end Dataflow.Text
