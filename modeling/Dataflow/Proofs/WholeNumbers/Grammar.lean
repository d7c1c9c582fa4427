import Dataflow.Proofs.WholeNumbers.Digits

/-!
# Whole numbers in settings

In front of the digits of a whole number stand margins, a sign and leading zeros with underscores
among them, and behind the digits a point with zeros and margins. A minus may also stand behind
leading zeros. `WholeText` says so without the steps by which such a text is tidied, and the texts
that are read are exactly these, with the numbers that they denote (`readWhole_eq_ok_iff`).

Each step of tidying takes away what the grammar allows in its place. A text can therefore be put
together again from what the steps leave (`wholeText_of_tidyNumeral`), and a text of the grammar is
tidied to its sign and digits (`WholeText.tidyNumeral_eq`).
-/

set_option autoImplicit false

namespace Dataflow

/-! ## The grammar -/

/-- Zeros, with underscores behind the first of them, or nothing. -/
structure LeadingZeros (zeros : List Char) : Prop where
  head : zeros.head? ≠ some '_'
  only : ∀ c ∈ zeros, c = '0' ∨ c = '_'

theorem LeadingZeros.nil : LeadingZeros [] where
  only := List.forall_mem_nil _
  head := by simp

/-- Nothing, or a point with zeros behind it. -/
inductive ZeroFraction : List Char → Prop where
  | none : ZeroFraction []
  | zeros (count : Nat) : ZeroFraction ('.' :: List.replicate (count + 1) '0')

/-- The texts of whole numbers between their margins, with the numbers that they denote. -/
inductive WholeCore : List Char → Int → Prop where
  | plain {sign : Text.Sign} {zeros text digits fraction : List Char} (hzeros : LeadingZeros zeros)
      (htext : Underscored text digits) (hdigits : PlainDigits digits)
      (hfraction : ZeroFraction fraction) :
      WholeCore (sign.text ++ (zeros ++ (text ++ fraction))) (sign.apply (Text.number digits))
  /-- Behind leading zeros a minus can stand, and an underscore behind it. -/
  | dashed {sign : Text.Sign} {zeros mark text digits fraction : List Char} (hsign : sign ≠ .minus)
      (hzeros : LeadingZeros zeros) (hsome : zeros ≠ []) (hmark : mark = [] ∨ mark = ['_'])
      (htext : Underscored text digits) (hdigits : PlainDigits digits)
      (hfraction : ZeroFraction fraction) :
      WholeCore (sign.text ++ (zeros ++ '-' :: (mark ++ (text ++ fraction))))
        (-(Text.number digits : Int))

/-- The texts of whole numbers, with the numbers that they denote. -/
inductive WholeText : List Char → Int → Prop where
  | intro {before core after : List Char} {n : Int} (hbefore : ∀ c ∈ before, Text.isMargin c = true)
      (hcore : WholeCore core n) (hafter : ∀ c ∈ after, Text.isMargin c = true) :
      WholeText (before ++ core ++ after) n

/-! ## Fractions -/

/-- What is left out behind a numeral is a fraction of zeros. -/
theorem exists_fraction (numeral : List Char) :
    ∃ fraction, ZeroFraction fraction ∧ numeral = dropZeroFraction numeral ++ fraction := by
  rw [dropZeroFraction]
  split
  · next point zeros hdrop =>
    split
    · next hzeros =>
      have hpoint := List.head?_dropWhile_not (fun c => decide (c ≠ '.')) numeral
      rw [hdrop] at hpoint
      have hall : zeros = List.replicate zeros.length '0' := by
        apply List.eq_replicate_of_mem
        intro c hc
        exact of_decide_eq_true (List.all_eq_true.1 hzeros c hc)
      have hfraction : point :: '0' :: zeros = '.' :: List.replicate (zeros.length + 1) '0' := by
        rw [List.replicate_succ, ← hall]
        simpa using hpoint
      refine ⟨point :: '0' :: zeros, hfraction ▸ .zeros zeros.length, ?_⟩
      rw [← hdrop, List.takeWhile_append_dropWhile]
    · exact ⟨[], .none, (List.append_nil _).symm⟩
  · exact ⟨[], .none, (List.append_nil _).symm⟩

theorem dropZeroFraction_append {text fraction : List Char} (htext : '.' ∉ text)
    (hfraction : ZeroFraction fraction) : dropZeroFraction (text ++ fraction) = text := by
  have hother : ∀ c ∈ text, (decide (c ≠ '.')) = true := by
    intro c hc
    refine decide_eq_true ?_
    rintro rfl
    exact htext hc
  rw [dropZeroFraction, List.dropWhile_append_of_pos hother, List.takeWhile_append_of_pos hother]
  cases hfraction with
  | none => simp
  | zeros count => simp [List.replicate_succ]

/-! ## Leading zeros -/

/-- What is left out behind a zero or an underscore is zeros and underscores. -/
theorem exists_zeros_of_dropZerosBehind {last : Char} {text rest : List Char}
    (hlast : last = '0' ∨ last = '_') (h : dropZerosBehind last text = some rest) :
    ∃ zeros, (∀ c ∈ zeros, c = '0' ∨ c = '_') ∧ last :: text = zeros ++ rest := by
  fun_induction dropZerosBehind last text with
  | case1 last =>
    obtain rfl := Option.some.inj h
    exact ⟨[], List.forall_mem_nil _, rfl⟩
  | case2 last c text hc ih =>
    obtain ⟨zeros, hzeros, htext⟩ := ih hc h
    refine ⟨last :: zeros, List.forall_mem_cons.2 ⟨hlast, hzeros⟩, ?_⟩
    rw [htext]
    rfl
  | case3 last c text hc hdigit =>
    obtain rfl := Option.some.inj h
    exact ⟨[last], List.forall_mem_singleton.2 hlast, rfl⟩
  | case4 last text hc hdigit =>
    obtain rfl := Option.some.inj h
    exact ⟨[], List.forall_mem_nil _, rfl⟩
  | case5 => cases h

/-- What is left out in front of a numeral is leading zeros. The numeral starts with a digit. -/
theorem exists_leadingZeros {numeral rest : List Char} (h : dropLeadingZeros numeral = some rest) :
    ∃ zeros, LeadingZeros zeros ∧ numeral = zeros ++ rest ∧ numeral.head? ≠ some '-' := by
  rw [dropLeadingZeros.eq_def] at h
  split at h
  · next text =>
    obtain ⟨zeros, hzeros, htext⟩ := exists_zeros_of_dropZerosBehind (Or.inl rfl) h
    refine ⟨zeros, ⟨?_, hzeros⟩, htext, by simp⟩
    intro hhead
    obtain ⟨others, rfl⟩ := List.head?_eq_some_iff.1 hhead
    cases htext
  · next c text hc =>
    split at h
    · next hdigit =>
      obtain rfl := Option.some.inj h
      refine ⟨[], .nil, rfl, ?_⟩
      simpa using Text.ne_of_isDigit hdigit (by decide : '-'.isDigit = false)
    · cases h
  · cases h

/-- What leading zeros can be left out in front of. -/
inductive BehindZeros : List Char → Prop where
  | digit {c : Char} {rest : List Char} (hc : c.isDigit = true) (hzero : c ≠ '0') :
      BehindZeros (c :: rest)
  | minus {rest : List Char} : BehindZeros ('-' :: rest)
  | zero {fraction : List Char} (hfraction : ZeroFraction fraction) : BehindZeros ('0' :: fraction)

theorem dropZerosBehind_append {zeros rest : List Char} (hzeros : ∀ c ∈ zeros, c = '0' ∨ c = '_')
    (hrest : BehindZeros rest) (last : Char) : dropZerosBehind last (zeros ++ rest) = some rest := by
  induction zeros generalizing last with
  | nil =>
    rw [List.nil_append]
    cases hrest with
    | digit hc hzero => simp [dropZerosBehind, hc, hzero, ne_underscore hc]
    | minus => rfl
    | zero hfraction =>
      cases hfraction with
      | none => rfl
      | zeros count => rfl
  | cons c zeros ih =>
    obtain ⟨hc, hzeros⟩ := List.forall_mem_cons.1 hzeros
    rw [List.cons_append, dropZerosBehind, if_pos hc, ih hzeros]

theorem dropLeadingZeros_append {zeros rest : List Char} (hzeros : LeadingZeros zeros)
    (hrest : BehindZeros rest) (hminus : rest.head? = some '-' → zeros ≠ []) :
    dropLeadingZeros (zeros ++ rest) = some rest := by
  cases zeros with
  | nil =>
    rw [List.nil_append]
    cases hrest with
    | digit hc hzero => simp [dropLeadingZeros, hc]
    | minus => exact absurd rfl (hminus rfl)
    | zero hfraction =>
      cases hfraction with
      | none => rfl
      | zeros count => rfl
  | cons c zeros =>
    obtain ⟨hc, honly⟩ := List.forall_mem_cons.1 hzeros.only
    have hzero : c = '0' := hc.resolve_right (by simpa using hzeros.head)
    rw [hzero, List.cons_append, dropLeadingZeros]
    exact dropZerosBehind_append honly hrest '0'

/-! ## Tidied numerals -/

/-- Every numeral that can be tidied starts with a sign or none. -/
theorem exists_sign_of_dropPlus {core rest : List Char} (h : dropPlus core = some rest) :
    ∃ sign : Text.Sign, core = sign.text ++ (splitMinus rest).2 ∧
      (splitMinus rest).1 = decide (sign = .minus) := by
  rw [dropPlus.eq_def] at h
  split at h
  · cases h
  · next hminus =>
    obtain rfl := Option.some.inj h
    refine ⟨.plus, ?_⟩
    rw [splitMinus.eq_def]
    split
    · exact absurd rfl (hminus _)
    · exact ⟨rfl, rfl⟩
  · obtain rfl := Option.some.inj h
    rw [splitMinus.eq_def]
    split
    · exact ⟨.minus, rfl, rfl⟩
    · exact ⟨.none, rfl, rfl⟩

theorem dropPlus_append (sign : Text.Sign) {c : Char} (hc : c.isDigit = true) (body : List Char) :
    (dropPlus (sign.text ++ c :: body)).map splitMinus =
      some (decide (sign = .minus), c :: body) := by
  have hplus : c ≠ '+' := Text.ne_of_isDigit hc rfl
  have hminus : c ≠ '-' := Text.ne_of_isDigit hc rfl
  cases sign with
  | none => simp [Text.Sign.text, dropPlus, splitMinus, hplus, hminus]
  | plus => simp [Text.Sign.text, dropPlus, splitMinus, hminus]
  | minus => simp [Text.Sign.text, dropPlus, splitMinus]

/-- A numeral that is read after it was tidied is one of a whole number. -/
theorem wholeCore_of_tidyUnsigned {sign : Text.Sign} {body strict : List Char} {n : Int}
    (htidy : tidyUnsigned (decide (sign = .minus)) body = some strict)
    (hread : readStrict strict = .ok n) : WholeCore (sign.text ++ body) n := by
  rw [tidyUnsigned, Option.map_eq_some_iff] at htidy
  obtain ⟨rest, hrest, hstrict⟩ := htidy
  obtain ⟨zeros, hzeros, rfl, hhead⟩ := exists_leadingZeros hrest
  obtain ⟨fraction, hfraction, hsplit⟩ := exists_fraction rest
  obtain ⟨given, digits, hgiven, hdigits, rfl, rfl⟩ := readStrict_eq_ok_iff.1 hread
  dsimp only at hstrict
  generalize dropZeroFraction rest = text at hstrict hsplit
  subst hsplit
  by_cases hsign : sign = .minus
  · -- the minus that was put back is the one that is read
    subst hsign
    rw [decide_eq_true rfl, if_pos rfl] at hstrict
    cases given with
    | none =>
      have hdash : digits.head? = some '-' := by
        rw [← List.nil_append digits]
        exact congrArg List.head? hstrict.symm
      exact absurd hdash (hdigits.head?_ne rfl)
    | plus => exact absurd rfl hgiven
    | minus =>
      have hleft := (List.cons.inj hstrict).2
      exact .plain hzeros (underscored_of_dropUnderscores hdigits.ne_nil hdigits.isDigit hleft)
        hdigits hfraction
  · rw [decide_eq_false hsign, if_neg Bool.false_ne_true] at hstrict
    cases given with
    | none =>
      have hvalue : Text.Sign.none.apply (Text.number digits) =
          sign.apply (Text.number digits) := by
        cases sign with
        | none => rfl
        | plus => rfl
        | minus => exact absurd rfl hsign
      rw [hvalue]
      exact .plain hzeros (underscored_of_dropUnderscores hdigits.ne_nil hdigits.isDigit hstrict)
        hdigits hfraction
    | plus => exact absurd rfl hgiven
    | minus =>
      -- a minus that is read without having been put back stood behind leading zeros
      obtain ⟨mark, text, hmark, rfl, htext⟩ :=
        exists_underscored_of_dashed hdigits.ne_nil hdigits.isDigit hstrict
      have hsome : zeros ≠ [] := by
        rintro rfl
        exact hhead rfl
      rw [List.cons_append, List.append_assoc]
      exact .dashed hsign hzeros hsome hmark htext hdigits hfraction

/-- A text that is read after it was tidied is one of a whole number. -/
theorem wholeText_of_tidyNumeral {text strict : List Char} {n : Int}
    (htidy : tidyNumeral text = some strict) (hread : readStrict strict = .ok n) :
    WholeText text n := by
  obtain ⟨before, after, hmargins, hbefore, hafter⟩ := Text.exists_margins text
  rw [tidyNumeral, Option.bind_eq_some_iff] at htidy
  obtain ⟨rest, hrest, hbody⟩ := htidy
  obtain ⟨sign, hcore, hsign⟩ := exists_sign_of_dropPlus hrest
  dsimp only at hbody
  rw [hsign] at hbody
  have hwhole := wholeCore_of_tidyUnsigned hbody hread
  rw [← hcore] at hwhole
  rw [hmargins]
  exact .intro hbefore hwhole hafter

/-! ## Tidying a whole number -/

namespace Underscored

variable {text digits fraction : List Char} (h : Underscored text digits)
include h

theorem point_not_mem : '.' ∉ text := by
  intro hpoint
  rcases h.mem_cases hpoint with hmark | hdigit
  · exact absurd hmark (by decide)
  · exact absurd hdigit (by decide)

theorem head?_append_ne (rest : List Char) : (text ++ rest).head? ≠ some '-' := by
  obtain ⟨c, others, rfl, hc, -⟩ := h.exists_head
  simpa using Text.ne_of_isDigit hc (by decide : '-'.isDigit = false)

/-- Leading zeros can be left out in front of digits that have none. -/
theorem behindZeros (hdigits : PlainDigits digits) (hfraction : ZeroFraction fraction) :
    BehindZeros (text ++ fraction) := by
  obtain ⟨c, rest, rfl, hc, hfirst⟩ := h.exists_head
  by_cases hzero : c = '0'
  · -- a leading zero is the only digit
    rw [hzero] at hfirst h ⊢
    rw [hdigits.leading hfirst] at h
    cases h with
    | single => exact .zero hfraction
    | joined _ hrest => cases hrest
    | parted _ hrest => cases hrest
  · exact .digit hc hzero

end Underscored

section Tidying

variable {zeros text digits fraction : List Char} (hzeros : LeadingZeros zeros)
  (htext : Underscored text digits) (hfraction : ZeroFraction fraction)
include hzeros htext hfraction

theorem tidyUnsigned_plain (hdigits : PlainDigits digits) (negative : Bool) :
    tidyUnsigned negative (zeros ++ (text ++ fraction)) =
      some (if negative then '-' :: digits else digits) := by
  have hminus := htext.head?_append_ne fraction
  rw [tidyUnsigned,
    dropLeadingZeros_append hzeros (htext.behindZeros hdigits hfraction) (absurd · hminus),
    Option.map_some, dropZeroFraction_append htext.point_not_mem hfraction,
    htext.dropUnderscores_eq]

theorem tidyUnsigned_dashed {mark : List Char} (hsome : zeros ≠ [])
    (hmark : mark = [] ∨ mark = ['_']) :
    tidyUnsigned false (zeros ++ '-' :: (mark ++ (text ++ fraction))) = some ('-' :: digits) := by
  have hpoint : '.' ∉ '-' :: (mark ++ text) := by
    rcases hmark with rfl | rfl
    · simpa using htext.point_not_mem
    · simpa using htext.point_not_mem
  have hbody : '-' :: (mark ++ (text ++ fraction)) = '-' :: (mark ++ text) ++ fraction := by simp
  rw [tidyUnsigned, dropLeadingZeros_append hzeros .minus (fun _ => hsome), Option.map_some, hbody,
    dropZeroFraction_append hpoint hfraction, htext.dropUnderscores_dashed hmark]
  rfl

end Tidying

/-- Leading zeros start with a zero. -/
theorem LeadingZeros.exists_cons {zeros : List Char} (h : LeadingZeros zeros) (hsome : zeros ≠ []) :
    ∃ rest, zeros = '0' :: rest := by
  obtain ⟨c, rest, rfl⟩ := List.exists_cons_of_ne_nil hsome
  have hc := h.only c List.mem_cons_self
  rw [hc.resolve_right (by simpa using h.head)]
  exact ⟨rest, rfl⟩

/-- The characters of a whole number. -/
def IsWholeChar (c : Char) : Prop := c.isDigit = true ∨ c ∈ ['+', '-', '_', '.']

theorem IsWholeChar.not_isMargin {c : Char} (h : IsWholeChar c) : Text.isMargin c = false := by
  rcases h with hdigit | hmark
  · exact Text.not_isMargin_of_isDigit hdigit
  · simp only [List.mem_cons, List.not_mem_nil, or_false] at hmark
    rcases hmark with rfl | rfl | rfl | rfl <;> rfl

theorem LeadingZeros.isWholeChar {zeros : List Char} (h : LeadingZeros zeros) {c : Char}
    (hc : c ∈ zeros) : IsWholeChar c := by
  rcases h.only c hc with rfl | rfl
  · exact Or.inl rfl
  · exact Or.inr (by decide)

theorem Underscored.isWholeChar {text digits : List Char} (h : Underscored text digits) {c : Char}
    (hc : c ∈ text) : IsWholeChar c := by
  rcases h.mem_cases hc with rfl | hdigit
  · exact Or.inr (by decide)
  · exact Or.inl hdigit

theorem ZeroFraction.isWholeChar {fraction : List Char} (h : ZeroFraction fraction) {c : Char}
    (hc : c ∈ fraction) : IsWholeChar c := by
  cases h with
  | none => cases hc
  | zeros count =>
    rcases List.mem_cons.1 hc with rfl | hzero
    · exact Or.inr (by decide)
    · rw [List.eq_of_mem_replicate hzero]
      exact Or.inl rfl

theorem isWholeChar_of_mem_sign {sign : Text.Sign} {c : Char} (hc : c ∈ sign.text) :
    IsWholeChar c := by
  cases sign with
  | none => cases hc
  | plus =>
    rw [List.mem_singleton.1 hc]
    exact Or.inr (by decide)
  | minus =>
    rw [List.mem_singleton.1 hc]
    exact Or.inr (by decide)

namespace WholeCore

variable {core : List Char} {n : Int} (h : WholeCore core n)
include h

theorem isWholeChar : ∀ c ∈ core, IsWholeChar c := by
  intro c hc
  cases h with
  | plain hzeros htext hdigits hfraction =>
    rw [List.mem_append, List.mem_append, List.mem_append] at hc
    rcases hc with hc | hc | hc | hc
    · exact isWholeChar_of_mem_sign hc
    · exact hzeros.isWholeChar hc
    · exact htext.isWholeChar hc
    · exact hfraction.isWholeChar hc
  | dashed hsign hzeros hsome hmark htext hdigits hfraction =>
    rw [List.mem_append, List.mem_append, List.mem_cons, List.mem_append, List.mem_append] at hc
    rcases hc with hc | hc | rfl | hc | hc | hc
    · exact isWholeChar_of_mem_sign hc
    · exact hzeros.isWholeChar hc
    · exact Or.inr (by decide)
    · rcases hmark with rfl | rfl
      · cases hc
      · rw [List.mem_singleton.1 hc]
        exact Or.inr (by decide)
    · exact htext.isWholeChar hc
    · exact hfraction.isWholeChar hc

/-- Behind the sign of a whole number stands a digit, and what follows can be tidied and read. -/
theorem exists_tidied :
    ∃ (sign : Text.Sign) (c : Char) (body strict : List Char), core = sign.text ++ c :: body ∧
      c.isDigit = true ∧ tidyUnsigned (decide (sign = .minus)) (c :: body) = some strict ∧
      readStrict strict = .ok n := by
  cases h with
  | @plain sign zeros text digits fraction hzeros htext hdigits hfraction =>
    have htidy := tidyUnsigned_plain hzeros htext hfraction hdigits (decide (sign = .minus))
    have hread : readStrict (if decide (sign = .minus) then '-' :: digits else digits) =
        .ok (sign.apply (Text.number digits)) := by
      cases sign with
      | none => exact hdigits.readStrict_eq (by decide : Text.Sign.none ≠ .plus)
      | plus => exact hdigits.readStrict_eq (by decide : Text.Sign.none ≠ .plus)
      | minus => exact hdigits.readStrict_eq (by decide : Text.Sign.minus ≠ .plus)
    by_cases hsome : zeros = []
    · obtain ⟨c, rest, htextCons, hc, -⟩ := htext.exists_head
      rw [hsome, htextCons] at htidy ⊢
      exact ⟨sign, c, _, _, rfl, hc, htidy, hread⟩
    · obtain ⟨rest, hrest⟩ := hzeros.exists_cons hsome
      rw [hrest] at htidy ⊢
      exact ⟨sign, '0', _, _, rfl, rfl, htidy, hread⟩
  | @dashed sign zeros mark text digits fraction hsign hzeros hsome hmark htext hdigits hfraction =>
    have htidy := tidyUnsigned_dashed hzeros htext hfraction hsome hmark
    obtain ⟨rest, rfl⟩ := hzeros.exists_cons hsome
    have hread := hdigits.readStrict_eq (by decide : Text.Sign.minus ≠ .plus)
    refine ⟨sign, '0', _, _, rfl, rfl, ?_, hread⟩
    rw [decide_eq_false hsign]
    exact htidy

end WholeCore

/-- Whole numbers are tidied to strict numerals of the same value. -/
theorem WholeText.tidyNumeral_eq {text : List Char} {n : Int} (h : WholeText text n) :
    (tidyNumeral text).map readStrict = some (.ok n) := by
  obtain ⟨hbefore, hcore, hafter⟩ := h
  obtain ⟨sign, c, body, strict, rfl, hc, htidy, hread⟩ := hcore.exists_tidied
  have htrim := Text.trimMargin_append hbefore (fun d hd => (hcore.isWholeChar d hd).not_isMargin)
    hafter (List.append_ne_nil_of_right_ne_nil _ (List.cons_ne_nil _ _))
  obtain ⟨rest, hrest, hsplit⟩ := Option.map_eq_some_iff.1 (dropPlus_append sign hc body)
  rw [tidyNumeral, htrim, hrest, Option.bind_some, hsplit]
  dsimp only
  rw [htidy, Option.map_some, hread]

/-! ## Reading -/

/-- The digits at the start of a text, behind a minus. -/
def leadingRun (text : List Char) : List Char := (splitMinus text).2.takeWhile Char.isDigit

/-- The digits at the start of a text are within the limit, unless the first is a zero. -/
def ShortRun (text : List Char) : Prop :=
  (leadingRun text).head? = some '0' ∨ (leadingRun text).length ≤ Text.digitLimit

/-- A text is too long only because of the digits that it starts with. -/
theorem ShortRun.readStrict_ne {text : List Char} (h : ShortRun text) :
    readStrict text ≠ .error .oversized := by
  intro hoversized
  rw [readStrict] at hoversized
  dsimp only at hoversized
  split at hoversized
  · split at hoversized <;> cases hoversized
  · next hzero =>
    split at hoversized
    · cases hoversized
    · split at hoversized
      · next hlong => exact Nat.not_lt.2 (h.resolve_left hzero) hlong
      · split at hoversized <;> cases hoversized

theorem ShortRun.of_cons {c : Char} (hminus : c ≠ '-') (hdigit : c.isDigit = false)
    (text : List Char) : ShortRun (c :: text) := by
  right
  simp [leadingRun, splitMinus, hminus, hdigit]

/-- A minus is skipped, and behind a plus no digits are looked at. -/
theorem ShortRun.append (sign : Text.Sign) {text : List Char} (hminus : text.head? ≠ some '-')
    (h : (text.takeWhile Char.isDigit).head? = some '0' ∨
      (text.takeWhile Char.isDigit).length ≤ Text.digitLimit) : ShortRun (sign.text ++ text) := by
  by_cases hsign : sign = .plus
  · rw [hsign]
    exact .of_cons (by decide) (by decide) text
  · rwa [ShortRun, leadingRun, splitMinus_append hsign hminus]

theorem LeadingZeros.shortRun {zeros : List Char} (h : LeadingZeros zeros) (hsome : zeros ≠ [])
    (sign : Text.Sign) (rest : List Char) : ShortRun (sign.text ++ (zeros ++ rest)) := by
  obtain ⟨others, rfl⟩ := h.exists_cons hsome
  apply ShortRun.append
  · simp
  · left
    simp

/-- The digits at the start of an underscored text are some of its digits. -/
theorem Underscored.length_takeWhile_le {text digits rest : List Char} (h : Underscored text digits)
    (hrest : rest.takeWhile Char.isDigit = []) :
    ((text ++ rest).takeWhile Char.isDigit).length ≤ digits.length := by
  induction h with
  | single hc => simp [hc, hrest]
  | joined hc _ ih => simpa [hc] using ih
  | parted hc _ ih => simp [hc]

theorem not_isDigit_of_isMargin {c : Char} (h : Text.isMargin c = true) : c.isDigit = false := by
  rw [Bool.eq_false_iff]
  intro hdigit
  rw [Text.not_isMargin_of_isDigit hdigit] at h
  cases h

/-- No digit follows the digits of a whole number. -/
theorem ZeroFraction.takeWhile_append {fraction after : List Char} (h : ZeroFraction fraction)
    (hafter : ∀ c ∈ after, Text.isMargin c = true) :
    (fraction ++ after).takeWhile Char.isDigit = [] := by
  cases h with
  | none =>
    cases after with
    | nil => rfl
    | cons c after =>
      have hdigit := not_isDigit_of_isMargin (hafter c List.mem_cons_self)
      simp [hdigit]
  | zeros count => simp

theorem WholeCore.shortRun {core after : List Char} {n : Int} (h : WholeCore core n)
    (hafter : ∀ c ∈ after, Text.isMargin c = true) : ShortRun (core ++ after) := by
  cases h with
  | @plain sign zeros text digits fraction hzeros htext hdigits hfraction =>
    rw [List.append_assoc, List.append_assoc, List.append_assoc]
    by_cases hsome : zeros = []
    · -- only digits of the number itself are at the start
      rw [hsome, List.nil_append]
      apply ShortRun.append sign (htext.head?_append_ne _)
      right
      calc ((text ++ (fraction ++ after)).takeWhile Char.isDigit).length
        _ ≤ digits.length := htext.length_takeWhile_le (hfraction.takeWhile_append hafter)
        _ ≤ Text.digitLimit := hdigits.short
    · exact hzeros.shortRun hsome sign _
  | @dashed sign zeros mark text digits fraction hsign hzeros hsome =>
    rw [List.append_assoc, List.append_assoc]
    exact hzeros.shortRun hsome sign _

/-- No whole number is too long. -/
theorem WholeText.readStrict_ne {text : List Char} {n : Int} (h : WholeText text n) :
    readStrict text ≠ .error .oversized := by
  apply ShortRun.readStrict_ne
  cases h with
  | @intro before core after _ hbefore hcore hafter =>
    cases before with
    | nil => exact hcore.shortRun hafter
    | cons c before =>
      have hmargin := hbefore c List.mem_cons_self
      apply ShortRun.of_cons
      · rintro rfl
        cases hmargin
      · exact not_isDigit_of_isMargin hmargin

/-- A text that is read as it stands is one of a whole number. -/
theorem wholeText_of_readStrict {text : List Char} {n : Int} (h : readStrict text = .ok n) :
    WholeText text n := by
  obtain ⟨sign, digits, hsign, hdigits, rfl, rfl⟩ := readStrict_eq_ok_iff.1 h
  have hcore : WholeCore (sign.text ++ ([] ++ (digits ++ []))) (sign.apply (Text.number digits)) :=
    .plain .nil (.of_isDigit hdigits.ne_nil hdigits.isDigit) hdigits .none
  rw [List.nil_append, List.append_nil] at hcore
  have htext : WholeText ([] ++ (sign.text ++ digits) ++ []) (sign.apply (Text.number digits)) :=
    .intro (List.forall_mem_nil _) hcore (List.forall_mem_nil _)
  rwa [List.nil_append, List.append_nil] at htext

/-- A text is read as a whole number just when it is one of the grammar, and then as the number that
it denotes. -/
theorem readWhole_eq_ok_iff {content : String} {n : Int} :
    readWhole content = .ok n ↔ WholeText content.toList n := by
  constructor
  · intro h
    rw [readWhole] at h
    split at h
    · next m hstrict =>
      obtain rfl := Except.ok.inj h
      exact wholeText_of_readStrict hstrict
    · cases h
    · split at h
      · next m htidied =>
        obtain rfl := Except.ok.inj h
        obtain ⟨strict, htidy, hread⟩ := Option.map_eq_some_iff.1 htidied
        exact wholeText_of_tidyNumeral htidy hread
      · cases h
  · intro h
    have htidied := h.tidyNumeral_eq
    rw [readWhole]
    split
    · next m hstrict =>
      -- tidying makes no difference to a text that is read as it stands
      have hsame := (wholeText_of_readStrict hstrict).tidyNumeral_eq
      rw [htidied, Option.some.injEq] at hsame
      exact hsame.symm
    · next hstrict => exact absurd hstrict h.readStrict_ne
    · rw [htidied]

end Dataflow
