import Dataflow.Proofs.NumeralGrammar

/-!
# Digits of whole numbers

A whole number in a setting has ASCII digits. As it is read in the end, no zero leads them
(`PlainDigits`), and a minus may stand in front (`readStrict_eq_ok_iff`). Before that they may be
parted by single underscores (`Underscored`). Underscores are left out if they are single and stand
at neither end, so what is left are digits just when the text was underscored
(`Underscored.dropUnderscores_eq`, `underscored_of_dropUnderscores`). A minus in front of the digits
makes room for one more underscore (`exists_underscored_of_dashed`).
-/

set_option autoImplicit false

namespace Dataflow

/-! ## Digits -/

/-- Digits with single underscores between some of them, and the digits alone. -/
inductive Underscored : List Char → List Char → Prop where
  | single {c : Char} (hc : c.isDigit = true) : Underscored [c] [c]
  | joined {c : Char} {text digits : List Char} (hc : c.isDigit = true)
      (h : Underscored text digits) : Underscored (c :: text) (c :: digits)
  | parted {c : Char} {text digits : List Char} (hc : c.isDigit = true)
      (h : Underscored text digits) : Underscored (c :: '_' :: text) (c :: digits)

/-- Digits of which the first is no zero, or a single zero, within the digit limit. -/
structure PlainDigits (digits : List Char) : Prop where
  ne_nil : digits ≠ []
  isDigit : ∀ c ∈ digits, c.isDigit = true
  leading : digits.head? = some '0' → digits = ['0']
  short : digits.length ≤ Text.digitLimit

theorem PlainDigits.zero : PlainDigits ['0'] where
  ne_nil := List.cons_ne_nil _ _
  isDigit := List.forall_mem_singleton.2 rfl
  leading := fun _ => rfl
  short := by decide

/-! ## Strict numerals -/

theorem isDigit_of_mapM {body : List Char} {digits : List Nat}
    (h : body.mapM Text.asciiDigit? = some digits) : ∀ c ∈ body, c.isDigit = true := by
  induction body generalizing digits with
  | nil => exact List.forall_mem_nil _
  | cons c body ih =>
    rw [List.mapM_cons, Option.bind_eq_bind, Option.bind_eq_some_iff] at h
    obtain ⟨d, hd, hrest⟩ := h
    rw [Option.bind_eq_bind, Option.bind_eq_some_iff] at hrest
    obtain ⟨ds, hds, -⟩ := hrest
    rw [List.forall_mem_cons]
    refine ⟨?_, ih hds⟩
    by_contra hc
    rw [Text.asciiDigit?, if_neg hc] at hd
    cases hd

/-- Every text starts with a minus or with no sign that is split off. -/
theorem exists_sign_of_splitMinus (text : List Char) :
    ∃ sign : Text.Sign, sign ≠ .plus ∧ text = sign.text ++ (splitMinus text).2 ∧
      ∀ n, Text.signed (splitMinus text).1 n = sign.apply n := by
  rw [splitMinus.eq_def]
  split
  · exact ⟨.minus, by decide, rfl, fun n => rfl⟩
  · exact ⟨.none, by decide, rfl, fun n => rfl⟩

theorem splitMinus_append {sign : Text.Sign} (hsign : sign ≠ .plus) {body : List Char}
    (hbody : body.head? ≠ some '-') :
    splitMinus (sign.text ++ body) = (decide (sign = .minus), body) := by
  cases sign with
  | none =>
    rw [Text.Sign.text, List.nil_append, splitMinus]
    · rfl
    · rintro rest rfl
      exact hbody rfl
  | plus => exact absurd rfl hsign
  | minus => rfl

/-- Only a minus changes a number. -/
theorem signed_decide (sign : Text.Sign) (n : Nat) :
    Text.signed (decide (sign = .minus)) n = sign.apply n := by
  cases sign with
  | none => rfl
  | plus => rfl
  | minus => rfl

namespace PlainDigits

variable {digits : List Char} (h : PlainDigits digits)
include h

theorem head?_ne {c : Char} (hc : c.isDigit = false) : digits.head? ≠ some c := by
  intro hhead
  rw [h.isDigit c (List.mem_of_mem_head? hhead)] at hc
  cases hc

theorem readStrict_eq {sign : Text.Sign} (hsign : sign ≠ .plus) :
    readStrict (sign.text ++ digits) = .ok (sign.apply (Text.number digits)) := by
  have hall : digits.takeWhile Char.isDigit = digits := List.takeWhile_eq_self_iff.2 h.isDigit
  rw [readStrict, splitMinus_append hsign (h.head?_ne rfl)]
  simp only [hall]
  by_cases hzero : digits.head? = some '0'
  · rw [if_pos hzero, if_pos (h.leading hzero), h.leading hzero]
    cases sign <;> rfl
  · rw [if_neg hzero, if_neg h.ne_nil, if_neg (Nat.not_lt.2 h.short),
      Text.mapM_asciiDigit? h.isDigit]
    exact congrArg Except.ok (signed_decide sign _)

end PlainDigits

/-- A text is read as it stands just when it has plain digits behind a minus or no sign. -/
theorem readStrict_eq_ok_iff {text : List Char} {n : Int} :
    readStrict text = .ok n ↔ ∃ sign digits, sign ≠ Text.Sign.plus ∧ PlainDigits digits ∧
      text = sign.text ++ digits ∧ n = sign.apply (Text.number digits) := by
  constructor
  · intro h
    obtain ⟨sign, hsign, htext, hsigned⟩ := exists_sign_of_splitMinus text
    rw [readStrict] at h
    cases hsplit : splitMinus text with
    | mk negative body =>
      rw [hsplit] at h htext hsigned
      dsimp only at h htext hsigned
      refine ⟨sign, body, hsign, ?_⟩
      split at h
      · split at h
        · next hbody =>
          obtain rfl := Except.ok.inj h
          rw [hbody] at htext ⊢
          refine ⟨.zero, htext, ?_⟩
          cases sign <;> rfl
        · cases h
      · next hleading =>
        split at h
        · cases h
        · next hsome =>
          split at h
          · cases h
          · next hshort =>
            split at h
            · next ds hread =>
              -- all characters are digits, so that the run that was looked at is the whole
              have hdigits := isDigit_of_mapM hread
              rw [Text.mapM_asciiDigit? hdigits, Option.some.injEq] at hread
              rw [List.takeWhile_eq_self_iff.2 hdigits] at hleading hsome hshort
              obtain rfl := Except.ok.inj h
              refine ⟨⟨hsome, hdigits, fun hzero => absurd hzero hleading, Nat.not_lt.1 hshort⟩,
                htext, ?_⟩
              rw [hsigned, ← hread]
              rfl
            · cases h
  · rintro ⟨sign, digits, hsign, hdigits, rfl, rfl⟩
    exact hdigits.readStrict_eq hsign

/-! ## Underscores -/

theorem ne_underscore {c : Char} (hc : c.isDigit = true) : c ≠ '_' := Text.ne_of_isDigit hc rfl

namespace Underscored

variable {text digits : List Char}

theorem exists_head (h : Underscored text digits) :
    ∃ c rest, text = c :: rest ∧ c.isDigit = true ∧ digits.head? = some c := by
  cases h with
  | single hc => exact ⟨_, _, rfl, hc, rfl⟩
  | joined hc => exact ⟨_, _, rfl, hc, rfl⟩
  | parted hc => exact ⟨_, _, rfl, hc, rfl⟩

/-- Digits can do without underscores. -/
theorem of_isDigit (hsome : digits ≠ []) (hdigits : ∀ c ∈ digits, c.isDigit = true) :
    Underscored digits digits := by
  induction digits with
  | nil => exact absurd rfl hsome
  | cons c digits ih =>
    obtain ⟨hc, hrest⟩ := List.forall_mem_cons.1 hdigits
    cases digits with
    | nil => exact .single hc
    | cons next digits => exact .joined hc (ih (List.cons_ne_nil _ _) hrest)

theorem mem_cases (h : Underscored text digits) {c : Char} (hc : c ∈ text) :
    c = '_' ∨ c.isDigit = true := by
  induction h with
  | single hd =>
    rw [List.mem_singleton.1 hc]
    exact Or.inr hd
  | joined hd _ ih =>
    rcases List.mem_cons.1 hc with rfl | hc
    · exact Or.inr hd
    · exact ih hc
  | parted hd _ ih =>
    rcases List.mem_cons.1 hc with rfl | hc
    · exact Or.inr hd
    · rcases List.mem_cons.1 hc with rfl | hc
      · exact Or.inl rfl
      · exact ih hc

theorem filter_eq (h : Underscored text digits) : text.filter (· ≠ '_') = digits := by
  induction h with
  | single hc => simp [ne_underscore hc]
  | joined hc _ ih => simp_all [ne_underscore hc]
  | parted hc _ ih => simp_all [ne_underscore hc]

theorem getLast?_ne (h : Underscored text digits) : text.getLast? ≠ some '_' := by
  induction h with
  | single hc => simpa using ne_underscore hc
  | joined hc h ih =>
    obtain ⟨c, rest, rfl, -, -⟩ := h.exists_head
    rwa [List.getLast?_cons_cons]
  | parted hc h ih =>
    obtain ⟨c, rest, rfl, -, -⟩ := h.exists_head
    rwa [List.getLast?_cons_cons, List.getLast?_cons_cons]

end Underscored

theorem hasDoubleUnderscore_cons_of_ne {c : Char} (hc : c ≠ '_') (text : List Char) :
    hasDoubleUnderscore (c :: text) = hasDoubleUnderscore text := by
  rw [hasDoubleUnderscore]
  rintro rest rfl rfl
  exact hc rfl

theorem hasDoubleUnderscore_cons_of_head {c : Char} {text : List Char}
    (h : text.head? ≠ some '_') :
    hasDoubleUnderscore (c :: text) = hasDoubleUnderscore text := by
  rw [hasDoubleUnderscore]
  rintro rest rfl rfl
  exact h rfl

theorem Underscored.hasDoubleUnderscore_eq {text digits : List Char} (h : Underscored text digits) :
    hasDoubleUnderscore text = false := by
  induction h with
  | single hc => exact hasDoubleUnderscore_cons_of_ne (ne_underscore hc) []
  | joined hc _ ih => rwa [hasDoubleUnderscore_cons_of_ne (ne_underscore hc)]
  | parted hc h ih =>
    obtain ⟨c, rest, rfl, hd, -⟩ := h.exists_head
    rwa [hasDoubleUnderscore_cons_of_ne (ne_underscore hc), hasDoubleUnderscore_cons_of_head]
    simpa using ne_underscore hd

theorem dropUnderscores_eq_filter {text : List Char} (hhead : text.head? ≠ some '_')
    (hlast : text.getLast? ≠ some '_') (hdouble : hasDoubleUnderscore text = false) :
    dropUnderscores text = text.filter (· ≠ '_') := by
  rw [dropUnderscores, if_neg]
  simp [hhead, hlast, hdouble]

/-- Single underscores between digits are left out. -/
theorem Underscored.dropUnderscores_eq {text digits : List Char} (h : Underscored text digits) :
    dropUnderscores text = digits := by
  rw [dropUnderscores_eq_filter _ h.getLast?_ne h.hasDoubleUnderscore_eq, h.filter_eq]
  obtain ⟨c, rest, rfl, hc, -⟩ := h.exists_head
  simpa using ne_underscore hc

/-- Behind a minus an underscore is left out as well. -/
theorem Underscored.dropUnderscores_dashed {mark text digits : List Char}
    (hmark : mark = [] ∨ mark = ['_']) (h : Underscored text digits) :
    dropUnderscores ('-' :: (mark ++ text)) = '-' :: digits := by
  have hdouble := h.hasDoubleUnderscore_eq
  have hlast := h.getLast?_ne
  have hfilter := h.filter_eq
  obtain ⟨c, rest, rfl, hc, -⟩ := h.exists_head
  rw [dropUnderscores_eq_filter]
  · rcases hmark with rfl | rfl
    · simpa using hfilter
    · simpa using hfilter
  · simp
  · rcases hmark with rfl | rfl
    · simpa using hlast
    · simpa using hlast
  · rcases hmark with rfl | rfl
    · rwa [hasDoubleUnderscore_cons_of_ne (by decide)]
    · rwa [hasDoubleUnderscore_cons_of_ne (by decide), List.singleton_append,
        hasDoubleUnderscore_cons_of_head]
      simpa using ne_underscore hc

theorem of_hasDoubleUnderscore_cons {c : Char} {text : List Char}
    (h : hasDoubleUnderscore (c :: text) = false) :
    hasDoubleUnderscore text = false ∧ (c = '_' → text.head? ≠ some '_') := by
  by_cases hhead : text.head? = some '_'
  · by_cases hc : c = '_'
    · obtain ⟨rest, rfl⟩ := List.head?_eq_some_iff.1 hhead
      rw [hc, hasDoubleUnderscore] at h
      cases h
    · rw [hasDoubleUnderscore_cons_of_ne hc] at h
      exact ⟨h, fun hmark => absurd hmark hc⟩
  · rw [hasDoubleUnderscore_cons_of_head hhead] at h
    exact ⟨h, fun _ => hhead⟩

/-- Digits with underscores of which no two stand together and none at the end are parted by single
ones, but for one that may stand in front. -/
theorem exists_underscored {text : List Char} (hsome : text ≠ [])
    (hlast : text.getLast? ≠ some '_') (hdouble : hasDoubleUnderscore text = false)
    (hdigits : ∀ c ∈ text.filter (· ≠ '_'), c.isDigit = true) :
    ∃ mark rest, (mark = [] ∨ mark = ['_']) ∧ text = mark ++ rest ∧
      Underscored rest (text.filter (· ≠ '_')) := by
  induction text with
  | nil => exact absurd rfl hsome
  | cons c text ih =>
    obtain ⟨hrestDouble, hnext⟩ := of_hasDoubleUnderscore_cons hdouble
    cases text with
    | nil =>
      have hc : c ≠ '_' := by simpa using hlast
      have hdigit : c.isDigit = true := hdigits c (by simp [hc])
      refine ⟨[], [c], Or.inl rfl, rfl, ?_⟩
      rw [List.filter_cons_of_pos (by simpa using hc)]
      exact .single hdigit
    | cons next text =>
      rw [List.getLast?_cons_cons] at hlast
      by_cases hc : c = '_'
      · -- the underscore in front is not followed by another one
        rw [hc, List.filter_cons_of_neg (by simp)] at hdigits ⊢
        obtain ⟨mark, rest, hmark, htext, hrest⟩ :=
          ih (List.cons_ne_nil _ _) hlast hrestDouble hdigits
        rcases hmark with rfl | rfl
        · exact ⟨['_'], rest, Or.inr rfl, congrArg ('_' :: ·) htext, hrest⟩
        · refine absurd ?_ (hnext hc)
          rw [htext]
          rfl
      · rw [List.filter_cons_of_pos (by simpa using hc), List.forall_mem_cons] at hdigits
        obtain ⟨mark, rest, hmark, htext, hrest⟩ :=
          ih (List.cons_ne_nil _ _) hlast hrestDouble hdigits.2
        refine ⟨[], c :: next :: text, Or.inl rfl, rfl, ?_⟩
        rw [List.filter_cons_of_pos (by simpa using hc), htext]
        rw [htext] at hrest
        rcases hmark with rfl | rfl
        · exact .joined hdigits.1 hrest
        · exact .parted hdigits.1 hrest

theorem underscore_mem {text : List Char} (h : hasDoubleUnderscore text = true) : '_' ∈ text := by
  fun_induction hasDoubleUnderscore text with
  | case1 rest => exact List.mem_cons_self
  | case2 c rest _ ih => exact List.mem_cons_of_mem c (ih h)
  | case3 => cases h

/-- What is left without underscores had none but single ones between other characters. -/
theorem of_dropUnderscores {text : List Char} (h : '_' ∉ dropUnderscores text) :
    text.head? ≠ some '_' ∧ text.getLast? ≠ some '_' ∧ hasDoubleUnderscore text = false ∧
      dropUnderscores text = text.filter (· ≠ '_') := by
  by_cases hkept : text.head? = some '_' ∨ text.getLast? = some '_' ∨ hasDoubleUnderscore text
  · rw [dropUnderscores, if_pos hkept] at h
    rcases hkept with hhead | hlast | hdouble
    · exact absurd (List.mem_of_mem_head? hhead) h
    · exact absurd (List.mem_of_getLast? hlast) h
    · exact absurd (underscore_mem hdouble) h
  · rw [dropUnderscores, if_neg hkept]
    rw [not_or, not_or, Bool.not_eq_true] at hkept
    exact ⟨hkept.1, hkept.2.1, hkept.2.2, rfl⟩

section Left

variable {text digits : List Char} (hsome : digits ≠ []) (hdigits : ∀ c ∈ digits, c.isDigit = true)
include hsome hdigits

theorem underscored_of_dropUnderscores (h : dropUnderscores text = digits) :
    Underscored text digits := by
  have hnone : '_' ∉ dropUnderscores text := by
    rw [h]
    exact fun hmem => ne_underscore (hdigits '_' hmem) rfl
  obtain ⟨hhead, hlast, hdouble, hfilter⟩ := of_dropUnderscores hnone
  rw [h] at hfilter
  have htext : text ≠ [] := by
    rintro rfl
    exact hsome hfilter
  obtain ⟨mark, rest, hmark, rfl, hrest⟩ :=
    exists_underscored htext hlast hdouble (hfilter ▸ hdigits)
  rw [← hfilter] at hrest
  rcases hmark with rfl | rfl
  · exact hrest
  · exact absurd rfl hhead

theorem exists_underscored_of_dashed (h : dropUnderscores text = '-' :: digits) :
    ∃ mark rest, (mark = [] ∨ mark = ['_']) ∧ text = '-' :: (mark ++ rest) ∧
      Underscored rest digits := by
  have hnone : '_' ∉ dropUnderscores text := by
    rw [h, List.mem_cons, not_or]
    exact ⟨by decide, fun hmem => ne_underscore (hdigits '_' hmem) rfl⟩
  obtain ⟨hhead, hlast, hdouble, hfilter⟩ := of_dropUnderscores hnone
  rw [h] at hfilter
  cases text with
  | nil => cases hfilter
  | cons c text =>
    have hc : c ≠ '_' := by simpa using hhead
    rw [List.filter_cons_of_pos (by simpa using hc)] at hfilter
    obtain ⟨rfl, hleft⟩ := List.cons.inj hfilter
    have htext : text ≠ [] := by
      rintro rfl
      exact hsome hleft
    have hrestLast : text.getLast? ≠ some '_' := by
      obtain ⟨next, rest, rfl⟩ := List.exists_cons_of_ne_nil htext
      rwa [List.getLast?_cons_cons] at hlast
    obtain ⟨mark, rest, hmark, rfl, hrest⟩ := exists_underscored htext hrestLast
      (of_hasDoubleUnderscore_cons hdouble).1 (hleft ▸ hdigits)
    exact ⟨mark, rest, hmark, rfl, hleft ▸ hrest⟩

end Left

end Dataflow
