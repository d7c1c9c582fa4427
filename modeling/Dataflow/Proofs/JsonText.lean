import Mathlib.Algebra.Group.Nat.Defs
import Dataflow.Proofs.CallText
import Dataflow.Proofs.Printing
import Dataflow.StateDump

/-!
# JSON texts that can be read in one way

A way of writing values is delimited if each text tells where it ends: what was written, and what
stands behind it, can be recovered from the whole (`Delimited`). A character inside a string is
written in one of three ways (`Spelling`), and a character beyond the first 0x10000 as two escapes,
the first of which names no character on its own; characters are therefore delimited, and with the
closing quote so are strings (`delimited_jsonString`). A value is told by its first character, and
ends in front of a line feed at the latest (`delimited_jsonValue`).
-/

set_option autoImplicit false

namespace Dataflow

/-! ## Delimited texts -/

/-- Each text tells what was written and where it ends. -/
def Delimited {α : Type} (write : α → List Char) : Prop :=
  ∀ ⦃a b : α⦄ ⦃rest other : List Char⦄, write a ++ rest = write b ++ other → a = b ∧ rest = other

/-- A list of delimited texts, closed by a character with which none of them starts. -/
theorem Delimited.flatMap {α : Type} {write : α → List Char} (h : Delimited write) {close : Char}
    (hclose : ∀ a rest other, write a ++ rest ≠ close :: other) :
    Delimited fun list : List α => list.flatMap write ++ [close] := by
  intro first second rest other heq
  simp only [List.append_assoc, List.singleton_append] at heq
  induction first generalizing second with
  | nil =>
    cases second with
    | nil => exact ⟨rfl, (List.cons.inj heq).2⟩
    | cons b second =>
      rw [List.flatMap_cons, List.append_assoc] at heq
      exact absurd heq.symm (hclose b _ _)
  | cons a first ih =>
    rw [List.flatMap_cons, List.append_assoc] at heq
    cases second with
    | nil => exact absurd heq (hclose a _ _)
    | cons b second =>
      rw [List.flatMap_cons, List.append_assoc] at heq
      obtain ⟨rfl, hrest⟩ := h heq
      obtain ⟨rfl, rfl⟩ := ih hrest
      exact ⟨rfl, rfl⟩

namespace Text

/-! ## Hexadecimal digits -/

theorem digitChar_inj {m n : Nat} (hm : m < 16) (hn : n < 16)
    (h : Nat.digitChar m = Nat.digitChar n) : m = n := by
  have hall : ∀ m : Fin 16, ∀ n : Fin 16, Nat.digitChar m = Nat.digitChar n → m = n := by
    decide
  exact congrArg Fin.val (hall ⟨m, hm⟩ ⟨n, hn⟩ h)

theorem length_hexDigits {width n : Nat} (hwidth : 0 < width) (hn : n < 16 ^ width) :
    (hexDigits width n).length = width := by
  have hlength := (Nat.length_toDigits_le_iff (by decide) hwidth).2 hn
  simp only [hexDigits, List.length_append, List.length_replicate]
  omega

/-- The last digit is the remainder, and the others are those of the quotient. -/
theorem hexDigits_succ {width : Nat} (hwidth : 0 < width) (n : Nat) :
    hexDigits (width + 1) n = hexDigits width (n / 16) ++ [Nat.digitChar (n % 16)] := by
  by_cases hn : n < 16
  · have hquotient : n / 16 = 0 := Nat.div_eq_of_lt hn
    have hzeros : List.replicate width '0' = List.replicate (width - 1) '0' ++ ['0'] := by
      rw [← List.replicate_succ', Nat.sub_add_cancel hwidth]
    simp only [hexDigits, hquotient, Nat.toDigits_of_lt_base hn, Nat.toDigits_zero,
      Nat.mod_eq_of_lt hn, List.length_singleton, Nat.add_sub_cancel]
    rw [hzeros]
  · have hdigits := Nat.toDigits_of_base_le (by decide : 1 < 16) (Nat.le_of_not_lt hn)
    simp only [hexDigits, hdigits, List.length_append, List.length_singleton,
      Nat.add_sub_add_right, List.append_assoc]

theorem hexDigits_inj {width m n : Nat} (hm : m < 16 ^ (width + 1)) (hn : n < 16 ^ (width + 1))
    (h : hexDigits (width + 1) m = hexDigits (width + 1) n) : m = n := by
  induction width generalizing m n with
  | zero =>
    rw [Nat.zero_add, Nat.pow_one] at hm hn
    simp only [hexDigits, Nat.toDigits_of_lt_base hm, Nat.toDigits_of_lt_base hn] at h
    exact digitChar_inj hm hn (List.singleton_inj.1 h)
  | succ width ih =>
    rw [hexDigits_succ (Nat.succ_pos width), hexDigits_succ (Nat.succ_pos width)] at h
    obtain ⟨hquotient, hremainder⟩ := List.append_inj' h rfl
    have hdivide : ∀ k, k < 16 ^ (width + 1 + 1) → k / 16 < 16 ^ (width + 1) := fun k hk =>
      Nat.div_lt_of_lt_mul (by rwa [Nat.pow_succ, Nat.mul_comm] at hk)
    have hsame := ih (hdivide m hm) (hdivide n hn) hquotient
    have hlast := digitChar_inj (Nat.mod_lt m (by decide)) (Nat.mod_lt n (by decide))
      (List.singleton_inj.1 hremainder)
    omega

/-! ## Decimal numerals -/

/-- The first character of a numeral is a sign or a digit. -/
theorem head_writeInt (n : Int) :
    ∃ c rest, (writeInt n).toList = c :: rest ∧ (c = '-' ∨ c.isDigit = true) := by
  cases n with
  | ofNat k =>
    have hrepr : (writeInt (.ofNat k)).toList = Nat.toDigits 10 k := Nat.toList_repr
    obtain ⟨c, rest, hdigits⟩ := List.exists_cons_of_ne_nil (@Nat.toDigits_ne_nil k 10)
    refine ⟨c, rest, hrepr.trans hdigits, Or.inr ?_⟩
    exact Nat.isDigit_of_mem_toDigits (by decide) (by decide) (hdigits ▸ List.mem_cons_self)
  | negSucc k => exact ⟨'-', _, by rw [writeInt, String.toList_append]; rfl, Or.inl rfl⟩

theorem writeInt_inj {m n : Int} (h : writeInt m = writeInt n) : m = n := by
  have hrepr : ∀ {k l : Nat}, Nat.repr k = Nat.repr l → k = l := by
    intro k l h
    have hdigits := congrArg (fun text => Nat.ofDigitChars 10 text.toList 0) h
    simpa only [Nat.toList_repr, Nat.ofDigitChars_ten_toDigits] using hdigits
  -- a numeral without a sign starts with a digit
  have hsign : ∀ k l : Nat, Nat.repr k ≠ "-" ++ Nat.repr l := by
    intro k l h
    have hdigits : Nat.toDigits 10 k = '-' :: (Nat.repr l).toList := by
      rw [← Nat.toList_repr, h, String.toList_append]
      rfl
    have hdash := @Nat.isDigit_of_mem_toDigits 10 k '-' (by decide) (by decide)
      (hdigits ▸ List.mem_cons_self)
    cases hdash
  cases m with
  | ofNat k =>
    cases n with
    | ofNat l => exact congrArg Int.ofNat (hrepr h)
    | negSucc l => exact absurd h (hsign k (l + 1))
  | negSucc k =>
    cases n with
    | ofNat l => exact absurd h.symm (hsign l (k + 1))
    | negSucc l =>
      have hlists := congrArg String.toList h
      simp only [writeInt, String.toList_append] at hlists
      have hnumeral := String.toList_inj.1 (List.append_cancel_left hlists)
      exact congrArg Int.negSucc (Nat.succ.inj (hrepr hnumeral))

end Text

namespace StateDump

/-! ## Characters -/

theorem unitEscape_inj {m n : Nat} {rest other : List Char} (hm : m < 0x10000) (hn : n < 0x10000)
    (h : unitEscape m ++ rest = unitEscape n ++ other) : m = n ∧ rest = other := by
  have hlength : (Text.hexDigits 4 m).length = (Text.hexDigits 4 n).length := by
    rw [Text.length_hexDigits (by decide) hm, Text.length_hexDigits (by decide) hn]
  simp only [unitEscape, List.cons_append, List.cons.injEq, true_and] at h
  obtain ⟨hdigits, hrest⟩ := List.append_inj h hlength
  exact ⟨Text.hexDigits_inj hm hn hdigits, hrest⟩

/-- A character is no half of a surrogate pair. -/
theorem not_surrogate (c : Char) : c.toNat < 0xD800 ∨ 0xDFFF < c.toNat ∧ c.toNat < 0x110000 :=
  c.valid

theorem charEscape_inj {c d : Char} {rest other : List Char}
    (h : charEscape c.toNat ++ rest = charEscape d.toNat ++ other) : c = d ∧ rest = other := by
  have hc := not_surrogate c
  have hd := not_surrogate d
  suffices c.toNat = d.toNat ∧ rest = other from ⟨Char.toNat_inj.1 this.1, this.2⟩
  rw [charEscape, charEscape] at h
  split at h
  · next hsmall =>
    split at h
    · next hsmall' => exact unitEscape_inj hsmall hsmall' h
    · -- the first half of a pair is the escape of no character
      rw [List.append_assoc] at h
      have hfirst := (unitEscape_inj hsmall (by omega) h).1
      omega
  · next hlarge =>
    rw [List.append_assoc] at h
    split at h
    · next hsmall' =>
      have hfirst := (unitEscape_inj (by omega) hsmall' h).1
      omega
    · next hlarge' =>
      rw [List.append_assoc] at h
      obtain ⟨hfirst, h⟩ := unitEscape_inj (by omega) (by omega) h
      obtain ⟨hsecond, hrest⟩ := unitEscape_inj (by omega) (by omega) h
      exact ⟨by omega, hrest⟩

/-- The characters that have an escape of their own, each with the character that names it. -/
def shortEscapes : List (Char × Char) :=
  [('"', '"'), ('\\', '\\'), ('\n', 'n'), ('\r', 'r'), ('\t', 't'), ('\x08', 'b'), ('\x0c', 'f')]

theorem shortEscapes_inj :
    ∀ p ∈ shortEscapes, ∀ q ∈ shortEscapes, p.2 = q.2 → p.1 = q.1 := by
  decide

theorem shortEscapes_ne_number : ∀ p ∈ shortEscapes, p.2 ≠ 'u' := by
  decide

/-- The ways in which a character is written. -/
inductive Spelling (c : Char) : List Char → Prop where
  | plain (hquote : c ≠ '"') (hbackslash : c ≠ '\\') : Spelling c [c]
  | short {name : Char} (h : (c, name) ∈ shortEscapes) : Spelling c ['\\', name]
  | number : Spelling c (charEscape c.toNat)

theorem spelling_jsonChar (c : Char) : Spelling c (jsonChar c) := by
  rw [jsonChar]
  split
  · next h =>
    rcases h with rfl | rfl
    · exact .short (by decide)
    · exact .short (by decide)
  · next hmarks =>
    rw [not_or] at hmarks
    split
    · next h => subst h; exact .short (by decide)
    split
    · next h => subst h; exact .short (by decide)
    split
    · next h => subst h; exact .short (by decide)
    split
    · next h => subst h; exact .short (by decide)
    split
    · next h => subst h; exact .short (by decide)
    split
    · exact .plain hmarks.1 hmarks.2
    · exact .number

/-- The escape of a character by its number. -/
theorem charEscape_eq_cons (n : Nat) : ∃ tail, charEscape n = '\\' :: 'u' :: tail := by
  rw [charEscape]
  split
  · exact ⟨_, by rw [unitEscape]⟩
  · exact ⟨_, by rw [unitEscape, List.cons_append, List.cons_append]⟩

/-- A plain character starts no escape, and the name of a short escape starts no number. -/
theorem Spelling.delimited {c d : Char} {first second rest other : List Char}
    (hc : Spelling c first) (hd : Spelling d second) (h : first ++ rest = second ++ other) :
    c = d ∧ rest = other := by
  obtain ⟨cs, hcs⟩ := charEscape_eq_cons c.toNat
  obtain ⟨ds, hds⟩ := charEscape_eq_cons d.toNat
  cases hc with
  | plain hquote hbackslash =>
    cases hd with
    | plain _ _ => exact List.cons.inj h
    | short _ => exact absurd (List.cons.inj h).1 hbackslash
    | number =>
      rw [hds] at h
      exact absurd (List.cons.inj h).1 hbackslash
  | @short name hname =>
    cases hd with
    | plain hquote hbackslash => exact absurd (List.cons.inj h).1.symm hbackslash
    | @short name' hname' =>
      obtain ⟨-, h⟩ := List.cons.inj h
      obtain ⟨rfl, hrest⟩ := List.cons.inj h
      exact ⟨shortEscapes_inj _ hname _ hname' rfl, hrest⟩
    | number =>
      rw [hds] at h
      obtain ⟨-, h⟩ := List.cons.inj h
      exact absurd (List.cons.inj h).1 (shortEscapes_ne_number _ hname)
  | number =>
    cases hd with
    | plain hquote hbackslash =>
      rw [hcs] at h
      exact absurd (List.cons.inj h).1.symm hbackslash
    | @short name hname =>
      rw [hcs] at h
      obtain ⟨-, h⟩ := List.cons.inj h
      exact absurd (List.cons.inj h).1.symm (shortEscapes_ne_number _ hname)
    | number => exact charEscape_inj h

theorem delimited_jsonChar : Delimited jsonChar :=
  fun c d _ _ h => (spelling_jsonChar c).delimited (spelling_jsonChar d) h

/-- No character is written with a quote in front. -/
theorem jsonChar_ne_quote (c : Char) (rest other : List Char) :
    jsonChar c ++ rest ≠ '"' :: other := by
  intro h
  have hc := spelling_jsonChar c
  revert h
  generalize jsonChar c = written at hc
  intro h
  cases hc with
  | plain hquote hbackslash => exact hquote (List.cons.inj h).1
  | short hname => exact absurd (List.cons.inj h).1 (by decide)
  | number =>
    obtain ⟨tail, htail⟩ := charEscape_eq_cons c.toNat
    rw [htail] at h
    exact absurd (List.cons.inj h).1 (by decide)

/-! ## Strings and values -/

theorem delimited_jsonString : Delimited fun text => (jsonString text).toList := by
  have hbody := delimited_jsonChar.flatMap jsonChar_ne_quote
  intro first second rest other h
  simp only [jsonString, String.toList_ofList, List.cons_append, List.cons.injEq, true_and] at h
  obtain ⟨htext, hrest⟩ := hbody h
  exact ⟨String.toList_inj.1 htext, hrest⟩

theorem delimited_jsonBool : Delimited fun b => (jsonBool b).toList := by
  intro first second rest other h
  cases first with
  | false =>
    cases second with
    | false => exact ⟨rfl, List.append_cancel_left h⟩
    | true => exact absurd (List.cons.inj h).1 (by decide)
  | true =>
    cases second with
    | false => exact absurd (List.cons.inj h).1 (by decide)
    | true => exact ⟨rfl, List.append_cancel_left h⟩

/-- An integer ends in front of a line feed. -/
theorem delimited_writeInt : Delimited fun n => (Text.writeInt n).toList ++ ['\n'] := by
  have hfeed : ∀ n, '\n' ∉ (Text.writeInt n).toList := by
    intro n hmem
    have hbreak := Text.unbroken_writeInt n '\n' hmem
    cases hbreak
  intro m n rest other h
  simp only [List.append_assoc, List.singleton_append] at h
  obtain ⟨hwritten, hrest⟩ := append_mark_inj (hfeed m) (hfeed n) h
  exact ⟨Text.writeInt_inj (String.toList_inj.1 hwritten), hrest⟩

/-- A kind of value by the first character of its text: a missing value, a text, a truth value or an
integer. -/
def kindOf (c : Char) : Nat :=
  if c = 'n' then 0 else if c = '"' then 1 else if c = 't' ∨ c = 'f' then 2 else 3

/-- The kind of a value. -/
def kind : Value → Nat
  | .absent => 0
  | .text _ => 1
  | .bool _ => 2
  | .int _ => 3

theorem head_jsonValue (value : Value) :
    ∃ c rest, (jsonValue value).toList = c :: rest ∧ kindOf c = kind value := by
  cases value with
  | absent => exact ⟨'n', _, rfl, rfl⟩
  | text content =>
    refine ⟨'"', content.toList.flatMap jsonChar ++ ['"'], ?_, rfl⟩
    rw [jsonValue, jsonString, String.toList_ofList, List.cons_append]
  | bool b =>
    cases b with
    | false => exact ⟨'f', _, rfl, rfl⟩
    | true => exact ⟨'t', _, rfl, rfl⟩
  | int n =>
    obtain ⟨c, rest, hwritten, hc⟩ := Text.head_writeInt n
    refine ⟨c, rest, hwritten, ?_⟩
    have hne : ∀ d : Char, d ≠ '-' → d.isDigit = false → c ≠ d := by
      rintro d hdash hdigit rfl
      rcases hc with rfl | hc
      · exact hdash rfl
      · rw [hdigit] at hc
        cases hc
    rw [kindOf, if_neg (hne 'n' (by decide) rfl), if_neg (hne '"' (by decide) rfl),
      if_neg (not_or.2 ⟨hne 't' (by decide) rfl, hne 'f' (by decide) rfl⟩), kind]

theorem delimited_jsonValue : Delimited fun value => (jsonValue value).toList ++ ['\n'] := by
  intro first second rest other h
  have hkind : kind first = kind second := by
    obtain ⟨c, cs, hfirst, hc⟩ := head_jsonValue first
    obtain ⟨d, ds, hsecond, hd⟩ := head_jsonValue second
    simp only [hfirst, hsecond, List.cons_append] at h
    rw [← hc, ← hd, (List.cons.inj h).1]
  cases first with
  | absent =>
    cases second with
    | absent => exact ⟨rfl, List.append_cancel_left h⟩
    | text _ | bool _ | int _ => cases hkind
  | text a =>
    cases second with
    | text b =>
      simp only [List.append_assoc] at h
      obtain ⟨rfl, hrest⟩ := delimited_jsonString h
      exact ⟨rfl, (List.cons.inj hrest).2⟩
    | absent | bool _ | int _ => cases hkind
  | bool a =>
    cases second with
    | bool b =>
      simp only [List.append_assoc] at h
      obtain ⟨rfl, hrest⟩ := delimited_jsonBool h
      exact ⟨rfl, (List.cons.inj hrest).2⟩
    | absent | text _ | int _ => cases hkind
  | int m =>
    cases second with
    | int n =>
      obtain ⟨rfl, hrest⟩ := delimited_writeInt h
      exact ⟨rfl, hrest⟩
    | absent | text _ | bool _ => cases hkind

end StateDump

end Dataflow
