import Mathlib.Data.List.Forall2
import Mathlib.Tactic.SplitIfs
import Dataflow.Proofs.FileText

/-!
# Well-formed bytes

`WellFormed` bytes are those of a text. What keeps bytes from being so is listed in `Malformed`: by
its upper bits a byte asks for continuation bytes (`header`), and these may be missing, or spell a
number (`Spells`) that is no character's or has a shorter spelling. Bytes that are not malformed begin
with a character (`encode_or_malformed`), malformed ones do not (`Malformed.ne_encode`), and a
character is read exactly where its bytes stand (`character_eq_ok_iff`).

Main statements: `decode_cases`, by which the flaw that decoding reports lies in malformed bytes
behind those of a text, and `Malformed.longestPrefix`, by which no longer text stands there.
-/

set_option autoImplicit false

namespace Dataflow

namespace Text.Utf8

/-! ## Bytes by their bits -/

/-- What the upper bits of a byte mark it as: the number in its lower bits and how many continuation
bytes are to follow, or nothing if no character can begin with it. -/
def header (b : UInt8) : Option (Nat × Nat) :=
  let n := b.toNat
  if n < 0x80 then some (n, 0)
  else if n < 0xC0 then none
  else if n < 0xE0 then some (n - 0xC0, 1)
  else if n < 0xF0 then some (n - 0xE0, 2)
  else if n < 0xF8 then some (n - 0xF0, 3)
  else none

/-- A continuation byte. -/
def IsTail (b : UInt8) : Prop := 0x80 ≤ b.toNat ∧ b.toNat ≤ 0xBF

/-- Puts the lower six bits of continuation bytes behind a number. -/
def gather (n : Nat) (tails : List UInt8) : Nat :=
  tails.foldl (fun n b => 64 * n + (b.toNat - 0x80)) n

/-- The least number that does not fit into fewer continuation bytes. -/
def least : Nat → Nat
  | 0 => 0
  | 1 => 0x80
  | 2 => 0x800
  | _ => 0x10000

/-- A lead byte and as many continuation bytes as it asks for make up a number. -/
structure Spells (b : UInt8) (tails : List UInt8) (n : Nat) : Prop where
  header : ∃ k, header b = some (k, tails.length) ∧ gather k tails = n
  tails : ∀ c ∈ tails, IsTail c

section Spelling

variable {b c d e : UInt8} {tails : List UInt8} {n : Nat}

theorem header_eq_none_iff : header b = none ↔ IsTail b ∨ 0xF8 ≤ b.toNat := by
  simp only [header, IsTail]
  split_ifs <;> simp <;> omega

/-- A lead byte of each length. -/
theorem header_eq_some_iff {k length : Nat} :
    header b = some (k, length) ↔
      (length = 0 ∧ b.toNat = k ∧ k < 0x80) ∨ (length = 1 ∧ b.toNat = k + 0xC0 ∧ k < 0x20) ∨
        (length = 2 ∧ b.toNat = k + 0xE0 ∧ k < 0x10) ∨
        (length = 3 ∧ b.toNat = k + 0xF0 ∧ k < 0x8) := by
  simp only [header]
  split_ifs <;> simp <;> omega

theorem Spells.length_le (h : Spells b tails n) : tails.length ≤ 3 := by
  obtain ⟨k, hheader, -⟩ := h.header
  rw [header_eq_some_iff] at hheader
  omega

theorem spells_nil_iff : Spells b [] n ↔ n < 0x80 ∧ b.toNat = n := by
  constructor
  · rintro ⟨⟨k, hheader, rfl⟩, -⟩
    simp only [header_eq_some_iff, List.length_nil, gather, List.foldl_nil] at hheader ⊢
    omega
  · rintro ⟨hn, hb⟩
    exact ⟨⟨n, header_eq_some_iff.2 (Or.inl ⟨rfl, hb, hn⟩), rfl⟩, List.forall_mem_nil _⟩

/-- The upper five bits and the lower six of a number. -/
theorem spells_one_iff :
    Spells b [c] n ↔ n < 0x800 ∧ b.toNat = n / 64 + 0xC0 ∧ c.toNat = n % 64 + 0x80 := by
  constructor
  · rintro ⟨⟨k, hheader, rfl⟩, htails⟩
    simp only [header_eq_some_iff, List.length_cons, List.length_nil, gather, List.foldl_cons,
      List.foldl_nil, List.forall_mem_cons, IsTail] at hheader htails ⊢
    omega
  · rintro ⟨hn, hb, hc⟩
    refine ⟨⟨n / 64, header_eq_some_iff.2 (Or.inr (Or.inl ⟨rfl, hb, by omega⟩)), ?_⟩, ?_⟩
    · simp only [gather, List.foldl_cons, List.foldl_nil]
      omega
    · rw [List.forall_mem_singleton, IsTail]
      omega

/-- The upper four bits of a number, then twice six. -/
theorem spells_two_iff :
    Spells b [c, d] n ↔ n < 0x10000 ∧ b.toNat = n / 4096 + 0xE0 ∧
      c.toNat = n / 64 % 64 + 0x80 ∧ d.toNat = n % 64 + 0x80 := by
  constructor
  · rintro ⟨⟨k, hheader, rfl⟩, htails⟩
    simp only [header_eq_some_iff, List.length_cons, List.length_nil, gather, List.foldl_cons,
      List.foldl_nil, List.forall_mem_cons, IsTail] at hheader htails ⊢
    omega
  · rintro ⟨hn, hb, hc, hd⟩
    refine ⟨⟨n / 4096, header_eq_some_iff.2 (Or.inr (Or.inr (Or.inl ⟨rfl, hb, by omega⟩))), ?_⟩,
      ?_⟩
    · simp only [gather, List.foldl_cons, List.foldl_nil]
      omega
    · rw [List.forall_mem_cons, List.forall_mem_singleton, IsTail, IsTail]
      omega

/-- The upper three bits of a number, then three times six. -/
theorem spells_three_iff :
    Spells b [c, d, e] n ↔ n < 0x200000 ∧ b.toNat = n / 262144 + 0xF0 ∧
      c.toNat = n / 4096 % 64 + 0x80 ∧ d.toNat = n / 64 % 64 + 0x80 ∧ e.toNat = n % 64 + 0x80 := by
  constructor
  · rintro ⟨⟨k, hheader, rfl⟩, htails⟩
    simp only [header_eq_some_iff, List.length_cons, List.length_nil, gather, List.foldl_cons,
      List.foldl_nil, List.forall_mem_cons, IsTail] at hheader htails ⊢
    omega
  · rintro ⟨hn, hb, hc, hd, he⟩
    refine ⟨⟨n / 262144, header_eq_some_iff.2 (Or.inr (Or.inr (Or.inr ⟨rfl, hb, by omega⟩))), ?_⟩,
      ?_⟩
    · simp only [gather, List.foldl_cons, List.foldl_nil]
      omega
    · rw [List.forall_mem_cons, List.forall_mem_cons, List.forall_mem_singleton, IsTail, IsTail,
        IsTail]
      omega

/-- The bytes of a character spell its number, and there are no more of them than needed. -/
theorem spells_encode (c : Char) :
    ∃ b tails, String.utf8EncodeChar c = b :: tails ∧ Spells b tails c.toNat ∧
      least tails.length ≤ c.toNat := by
  have hvalid : c.toNat < 0xD800 ∨ 0xDFFF < c.toNat ∧ c.toNat < 0x110000 := c.valid
  simp only [String.utf8EncodeChar, Char.toNat_val]
  split
  · refine ⟨_, _, rfl, spells_nil_iff.2 ?_, Nat.zero_le _⟩
    rw [toNat_byte (by omega)]
    omega
  · split
    · refine ⟨_, _, rfl, spells_one_iff.2 ?_, ?_⟩
      · rw [toNat_byte (by omega), toNat_byte (by omega)]
        omega
      · simp only [List.length_singleton, least]
        omega
    · split
      · refine ⟨_, _, rfl, spells_two_iff.2 ?_, ?_⟩
        · rw [toNat_byte (by omega), toNat_byte (by omega), toNat_byte (by omega)]
          omega
        · simp only [List.length_cons, List.length_nil, least]
          omega
      · refine ⟨_, _, rfl, spells_three_iff.2 ?_, ?_⟩
        · rw [toNat_byte (by omega), toNat_byte (by omega), toNat_byte (by omega),
            toNat_byte (by omega)]
          omega
        · simp only [List.length_cons, List.length_nil, least]
          omega

theorem ofNat_eq (h : b.toNat = n) : UInt8.ofNat n = b := by
  rw [← h, UInt8.ofNat_toNat]

/-- Bytes that spell the number of a character, and are no more than needed, are those of the
character. -/
theorem Spells.eq_encode (h : Spells b tails n) (hleast : least tails.length ≤ n)
    (hvalid : n.isValidChar) : String.utf8EncodeChar (Char.ofNat n) = b :: tails := by
  have hnumber : (Char.ofNat n).toNat = n := by
    rw [Char.ofNat, dif_pos hvalid]
    rfl
  have hlimit : n < 0x110000 := by
    rcases hvalid with hn | ⟨-, hn⟩
    · omega
    · exact hn
  simp only [String.utf8EncodeChar, Char.toNat_val, hnumber]
  -- the number of bytes tells the size of the number, and so which way it is encoded
  rcases tails with _ | ⟨c, _ | ⟨d, _ | ⟨e, _ | ⟨f, tails⟩⟩⟩⟩
  · obtain ⟨hn, hb⟩ := spells_nil_iff.1 h
    rw [if_pos (by omega), ofNat_eq hb]
  · obtain ⟨hn, hb, hc⟩ := spells_one_iff.1 h
    simp only [List.length_cons, List.length_nil, least] at hleast
    have hlead : b.toNat = n / 64 % 32 + 0xC0 := by omega
    rw [if_neg (by omega), if_pos (by omega), ofNat_eq hlead, ofNat_eq hc]
  · obtain ⟨hn, hb, hc, hd⟩ := spells_two_iff.1 h
    simp only [List.length_cons, List.length_nil, least] at hleast
    have hlead : b.toNat = n / 4096 % 16 + 0xE0 := by omega
    rw [if_neg (by omega), if_neg (by omega), if_pos (by omega), ofNat_eq hlead, ofNat_eq hc,
      ofNat_eq hd]
  · obtain ⟨hn, hb, hc, hd, he⟩ := spells_three_iff.1 h
    simp only [List.length_cons, List.length_nil, least] at hleast
    have hlead : b.toNat = n / 262144 % 8 + 0xF0 := by omega
    rw [if_neg (by omega), if_neg (by omega), if_neg (by omega), ofNat_eq hlead, ofNat_eq hc,
      ofNat_eq hd, ofNat_eq he]
  · have hlength := h.length_le
    simp only [List.length_cons] at hlength
    omega

end Spelling

/-! ## Malformed bytes -/

/-- Bytes that begin with no character. -/
inductive Malformed : List UInt8 → Prop where
  /-- A continuation byte follows no lead byte. -/
  | stray {b : UInt8} (h : IsTail b) (rest : List UInt8) : Malformed (b :: rest)
  /-- A byte is neither a lead byte nor a continuation byte. -/
  | foreign {b : UInt8} (h : 0xF8 ≤ b.toNat) (rest : List UInt8) : Malformed (b :: rest)
  /-- The bytes end before the last continuation byte that the lead byte asks for. -/
  | truncated {b : UInt8} {tails : List UInt8} {k length : Nat}
      (hheader : header b = some (k, length)) (htails : ∀ c ∈ tails, IsTail c)
      (hlength : tails.length < length) : Malformed (b :: tails)
  /-- Another byte stands where the lead byte asks for a continuation byte. -/
  | missing {b other : UInt8} {tails : List UInt8} {k length : Nat}
      (hheader : header b = some (k, length)) (htails : ∀ c ∈ tails, IsTail c)
      (hlength : tails.length < length) (hother : ¬ IsTail other) (rest : List UInt8) :
      Malformed (b :: (tails ++ other :: rest))
  /-- The number fits into fewer bytes. -/
  | overlong {b : UInt8} {tails : List UInt8} {n : Nat} (h : Spells b tails n)
      (hn : n < least tails.length) (rest : List UInt8) : Malformed (b :: (tails ++ rest))
  /-- The number is one of those that are set aside for pairs of 16-bit units. -/
  | surrogate {b : UInt8} {tails : List UInt8} {n : Nat} (h : Spells b tails n)
      (hlow : 0xD800 ≤ n) (hhigh : n ≤ 0xDFFF) (rest : List UInt8) :
      Malformed (b :: (tails ++ rest))
  /-- The number is too large for a character. -/
  | excessive {b : UInt8} {tails : List UInt8} {n : Nat} (h : Spells b tails n)
      (hn : 0x10FFFF < n) (rest : List UInt8) : Malformed (b :: (tails ++ rest))

section Malformed

variable {b : UInt8} {bytes rest tails : List UInt8} {n : Nat}

/-- What a lead byte asks for is there, or the bytes end too early, or another byte comes first. -/
theorem tails_cases (length : Nat) (bytes : List UInt8) :
    (∃ tails rest, bytes = tails ++ rest ∧ tails.length = length ∧ ∀ c ∈ tails, IsTail c) ∨
      (bytes.length < length ∧ ∀ c ∈ bytes, IsTail c) ∨
      ∃ tails other rest, bytes = tails ++ other :: rest ∧ tails.length < length ∧
        (∀ c ∈ tails, IsTail c) ∧ ¬ IsTail other := by
  induction length generalizing bytes with
  | zero => exact Or.inl ⟨[], bytes, rfl, rfl, List.forall_mem_nil _⟩
  | succ length ih =>
    rcases bytes with _ | ⟨first, bytes⟩
    · exact Or.inr (Or.inl ⟨Nat.zero_lt_succ length, List.forall_mem_nil _⟩)
    · by_cases hfirst : IsTail first
      · rcases ih bytes with ⟨tails, rest, rfl, rfl, htails⟩ | ⟨hlength, htails⟩ |
          ⟨tails, other, rest, rfl, hlength, htails, hother⟩
        · exact Or.inl ⟨first :: tails, rest, rfl, rfl, List.forall_mem_cons.2 ⟨hfirst, htails⟩⟩
        · exact Or.inr (Or.inl ⟨Nat.succ_lt_succ hlength,
            List.forall_mem_cons.2 ⟨hfirst, htails⟩⟩)
        · exact Or.inr (Or.inr ⟨first :: tails, other, rest, rfl, Nat.succ_lt_succ hlength,
            List.forall_mem_cons.2 ⟨hfirst, htails⟩, hother⟩)
      · exact Or.inr (Or.inr ⟨[], first, bytes, rfl, Nat.zero_lt_succ length,
          List.forall_mem_nil _, hfirst⟩)

/-- Bytes begin with a character or are malformed. -/
theorem encode_or_malformed (b : UInt8) (bytes : List UInt8) :
    (∃ c rest, b :: bytes = String.utf8EncodeChar c ++ rest) ∨ Malformed (b :: bytes) := by
  cases hheader : header b with
  | none =>
    rcases header_eq_none_iff.1 hheader with htail | hforeign
    · exact Or.inr (.stray htail bytes)
    · exact Or.inr (.foreign hforeign bytes)
  | some marked =>
    obtain ⟨k, length⟩ := marked
    rcases tails_cases length bytes with ⟨tails, rest, rfl, rfl, htails⟩ | ⟨hlength, htails⟩ |
      ⟨tails, other, rest, rfl, hlength, htails, hother⟩
    · have hspells : Spells b tails (gather k tails) := ⟨⟨k, hheader, rfl⟩, htails⟩
      by_cases hleast : gather k tails < least tails.length
      · exact Or.inr (.overlong hspells hleast rest)
      by_cases hlarge : 0x10FFFF < gather k tails
      · exact Or.inr (.excessive hspells hlarge rest)
      by_cases hsurrogate : 0xD800 ≤ gather k tails ∧ gather k tails ≤ 0xDFFF
      · exact Or.inr (.surrogate hspells hsurrogate.1 hsurrogate.2 rest)
      -- nothing is wrong with the number, so it is that of a character
      have hvalid : (gather k tails).isValidChar := by
        simp only [Nat.isValidChar]
        omega
      refine Or.inl ⟨Char.ofNat (gather k tails), rest, ?_⟩
      rw [hspells.eq_encode (Nat.le_of_not_lt hleast) hvalid, List.cons_append]
    · exact Or.inr (.truncated hheader htails hlength)
    · exact Or.inr (.missing hheader htails hlength hother rest)

/-- Malformed bytes begin with no character. -/
theorem Malformed.ne_encode (h : Malformed bytes) (c : Char) (rest : List UInt8) :
    bytes ≠ String.utf8EncodeChar c ++ rest := by
  obtain ⟨b, tails, hencode, hspells, hleast⟩ := spells_encode c
  have hvalid : c.toNat < 0xD800 ∨ 0xDFFF < c.toNat ∧ c.toNat < 0x110000 := c.valid
  obtain ⟨k, hheader, hgather⟩ := hspells.header
  rw [hencode, List.cons_append]
  intro hbytes
  -- a lead byte and as many bytes as it asks for can be read in one way only
  have hunique : ∀ {tails' rest' : List UInt8} {n : Nat}, Spells b tails' n →
      tails' ++ rest' = tails ++ rest → tails' = tails ∧ n = c.toNat := by
    intro tails' rest' n hspells' happend
    obtain ⟨k', hheader', rfl⟩ := hspells'.header
    rw [hheader, Option.some.injEq, Prod.mk.injEq] at hheader'
    obtain ⟨rfl, hlength⟩ := hheader'
    obtain ⟨rfl, -⟩ := List.append_inj happend hlength.symm
    exact ⟨rfl, hgather⟩
  cases h with
  | stray htail =>
    obtain ⟨rfl, -⟩ := List.cons.inj hbytes
    rw [header_eq_none_iff.2 (Or.inl htail)] at hheader
    cases hheader
  | foreign hforeign =>
    obtain ⟨rfl, -⟩ := List.cons.inj hbytes
    rw [header_eq_none_iff.2 (Or.inr hforeign)] at hheader
    cases hheader
  | truncated hheader' htails hlength =>
    obtain ⟨rfl, rfl⟩ := List.cons.inj hbytes
    rw [hheader, Option.some.injEq, Prod.mk.injEq] at hheader'
    rw [List.length_append] at hlength
    omega
  | missing hheader' htails hlength hother =>
    obtain ⟨rfl, happend⟩ := List.cons.inj hbytes
    rw [hheader, Option.some.injEq, Prod.mk.injEq] at hheader'
    rcases List.append_eq_append_iff.1 happend with ⟨between, rfl, hrest⟩ | ⟨between, rfl, -⟩
    · rcases between with _ | ⟨first, between⟩
      · rw [List.append_nil] at hheader'
        omega
      · obtain ⟨rfl, -⟩ := List.cons.inj hrest
        exact hother (hspells.tails _ (List.mem_append_right _ List.mem_cons_self))
    · rw [List.length_append] at hlength
      omega
  | overlong hspells' hn =>
    obtain ⟨rfl, happend⟩ := List.cons.inj hbytes
    obtain ⟨rfl, rfl⟩ := hunique hspells' happend
    omega
  | surrogate hspells' hlow hhigh =>
    obtain ⟨rfl, happend⟩ := List.cons.inj hbytes
    obtain ⟨rfl, rfl⟩ := hunique hspells' happend
    omega
  | excessive hspells' hn =>
    obtain ⟨rfl, happend⟩ := List.cons.inj hbytes
    obtain ⟨rfl, rfl⟩ := hunique hspells' happend
    omega

end Malformed

/-! ## Decoding -/

section Decoding

variable {b : UInt8} {n m : Nat} {ranges : List ByteRange} {bytes rest tails : List UInt8}

theorem gather_cons (c : UInt8) : gather n (c :: tails) = gather (64 * n + (c.toNat - 0x80)) tails :=
  List.foldl_cons ..

theorem gather_of_continuation (h : continuation n ranges bytes = .ok (m, rest)) :
    ∃ tails, bytes = tails ++ rest ∧ m = gather n tails ∧
      List.Forall₂ (fun range c => range.holds c = true) ranges tails := by
  induction ranges generalizing n bytes with
  | nil =>
    obtain ⟨rfl, rfl⟩ := Prod.mk.inj (Except.ok.inj h)
    exact ⟨[], rfl, rfl, .nil⟩
  | cons range ranges ih =>
    rcases bytes with _ | ⟨c, bytes⟩
    · cases h
    · rw [continuation] at h
      split at h
      · next hholds =>
        obtain ⟨tails, rfl, rfl, htails⟩ := ih h
        exact ⟨c :: tails, rfl, (gather_cons c).symm, .cons hholds htails⟩
      · cases h

/-- What a lead byte asks for. -/
theorem lead_cases (h : lead b = some (n, ranges)) :
    (b.toNat = n ∧ n < 0x80 ∧ ranges = []) ∨
      (b.toNat = n + 0xC0 ∧ 0x2 ≤ n ∧ n < 0x20 ∧ ranges = [tail]) ∨
      (b.toNat = n + 0xE0 ∧ n < 0x10 ∧ ranges = [secondOfThree b.toNat, tail]) ∨
      (b.toNat = n + 0xF0 ∧ n < 0x5 ∧ ranges = [secondOfFour b.toNat, tail, tail]) := by
  have hbyte : UInt8.ofNat b.toNat = b := UInt8.ofNat_toNat
  by_cases hone : b.toNat < 0x80
  · have hlead := lead_one hone
    rw [hbyte, h, Option.some.injEq, Prod.mk.injEq] at hlead
    exact Or.inl ⟨hlead.1.symm, by omega, hlead.2⟩
  by_cases htwo : 0xC2 ≤ b.toNat ∧ b.toNat < 0xE0
  · have hlead := lead_two htwo.1 htwo.2
    rw [hbyte, h, Option.some.injEq, Prod.mk.injEq] at hlead
    exact Or.inr (Or.inl ⟨by omega, by omega, by omega, hlead.2⟩)
  by_cases hthree : 0xE0 ≤ b.toNat ∧ b.toNat < 0xF0
  · have hlead := lead_three hthree.1 hthree.2
    rw [hbyte, h, Option.some.injEq, Prod.mk.injEq] at hlead
    exact Or.inr (Or.inr (Or.inl ⟨by omega, by omega, hlead.2⟩))
  by_cases hfour : 0xF0 ≤ b.toNat ∧ b.toNat < 0xF5
  · have hlead := lead_four hfour.1 hfour.2
    rw [hbyte, h, Option.some.injEq, Prod.mk.injEq] at hlead
    exact Or.inr (Or.inr (Or.inr ⟨by omega, by omega, hlead.2⟩))
  · -- no character begins with any other byte
    have hnone : lead b = none := by
      simp only [lead]
      by_cases hshort : b.toNat < 0xC2
      · rw [if_neg hone, if_pos hshort]
      · rw [if_neg hone, if_neg hshort, if_neg (by omega), if_neg (by omega), if_neg (by omega),
          if_neg (by omega), if_neg (by omega), if_neg (by omega), if_neg (by omega)]
    rw [hnone] at h
    cases h

theorem holds_iff {range : ByteRange} {c : UInt8} :
    range.holds c = true ↔ range.low ≤ c.toNat ∧ c.toNat ≤ range.high := by
  rw [ByteRange.holds, Bool.and_eq_true, decide_eq_true_iff, decide_eq_true_iff]

theorem holds_tail_iff {c : UInt8} : tail.holds c = true ↔ IsTail c := holds_iff

theorem holds_secondOfThree_iff {k : Nat} {c : UInt8} :
    (secondOfThree k).holds c = true ↔
      IsTail c ∧ (k = 0xE0 → 0xA0 ≤ c.toNat) ∧ (k = 0xED → c.toNat ≤ 0x9F) := by
  rw [holds_iff, secondOfThree, IsTail]
  split_ifs
  all_goals
    simp only [tail]
    omega

theorem holds_secondOfFour_iff {k : Nat} {c : UInt8} :
    (secondOfFour k).holds c = true ↔
      IsTail c ∧ (k = 0xF0 → 0x90 ≤ c.toNat) ∧ (k = 0xF4 → c.toNat ≤ 0x8F) := by
  rw [holds_iff, secondOfFour, IsTail]
  split_ifs
  all_goals
    simp only [tail]
    omega

/-- The ranges of the continuation bytes keep out what is no character. -/
theorem spells_of_lead (hlead : lead b = some (n, ranges))
    (htails : List.Forall₂ (fun range c => range.holds c = true) ranges tails) :
    Spells b tails (gather n tails) ∧ least tails.length ≤ gather n tails ∧
      (gather n tails).isValidChar := by
  rcases lead_cases hlead with ⟨hb, hn, rfl⟩ | ⟨hb, hlow, hhigh, rfl⟩ | ⟨hb, hn, rfl⟩ |
    ⟨hb, hn, rfl⟩
  · rcases htails with _ | _
    refine ⟨spells_nil_iff.2 ⟨hn, hb⟩, Nat.zero_le _, Or.inl ?_⟩
    simp only [gather, List.foldl_nil]
    omega
  · rcases htails with _ | ⟨hc, _ | _⟩
    have htail := holds_tail_iff.1 hc
    refine ⟨⟨⟨n, header_eq_some_iff.2 (Or.inr (Or.inl ⟨rfl, hb, hhigh⟩)), rfl⟩,
      List.forall_mem_singleton.2 htail⟩, ?_⟩
    simp only [IsTail, gather, List.foldl_cons, List.foldl_nil, List.length_singleton, least,
      Nat.isValidChar] at htail ⊢
    omega
  · rcases htails with _ | ⟨hc, _ | ⟨hd, _ | _⟩⟩
    obtain ⟨hsecond, hoverlong, hsurrogate⟩ := holds_secondOfThree_iff.1 hc
    have htail := holds_tail_iff.1 hd
    refine ⟨⟨⟨n, header_eq_some_iff.2 (Or.inr (Or.inr (Or.inl ⟨rfl, hb, hn⟩))), rfl⟩,
      List.forall_mem_cons.2 ⟨hsecond, List.forall_mem_singleton.2 htail⟩⟩, ?_⟩
    simp only [IsTail, gather, List.foldl_cons, List.foldl_nil, List.length_cons, List.length_nil,
      least, Nat.isValidChar] at hsecond htail ⊢
    omega
  · rcases htails with _ | ⟨hc, _ | ⟨hd, _ | ⟨he, _ | _⟩⟩⟩
    obtain ⟨hsecond, hoverlong, hexcessive⟩ := holds_secondOfFour_iff.1 hc
    have htail := holds_tail_iff.1 hd
    have htail' := holds_tail_iff.1 he
    refine ⟨⟨⟨n, header_eq_some_iff.2 (Or.inr (Or.inr (Or.inr ⟨rfl, hb, by omega⟩))), rfl⟩,
      List.forall_mem_cons.2 ⟨hsecond, List.forall_mem_cons.2 ⟨htail,
        List.forall_mem_singleton.2 htail'⟩⟩⟩, ?_⟩
    simp only [IsTail, gather, List.foldl_cons, List.foldl_nil, List.length_cons, List.length_nil,
      least, Nat.isValidChar] at hsecond htail htail' ⊢
    omega

/-- A character is read exactly where its bytes stand. -/
theorem character_eq_ok_iff {c : Char} :
    character b bytes = .ok (c, rest) ↔ b :: bytes = String.utf8EncodeChar c ++ rest := by
  constructor
  · intro h
    rw [character] at h
    split at h
    · cases h
    · next n ranges hlead =>
      split at h
      · next m later hcontinuation =>
        obtain ⟨rfl, rfl⟩ := Prod.mk.inj (Except.ok.inj h)
        obtain ⟨tails, rfl, rfl, htails⟩ := gather_of_continuation hcontinuation
        obtain ⟨hspells, hleast, hvalid⟩ := spells_of_lead hlead htails
        rw [hspells.eq_encode hleast hvalid, List.cons_append]
      · cases h
  · intro h
    obtain ⟨first, tails, hencode, hcharacter⟩ := character_encode c rest
    rw [hencode, List.cons_append] at h
    obtain ⟨rfl, rfl⟩ := List.cons.inj h
    exact hcharacter

/-- What is decoded is the text whose bytes they are. -/
theorem decodeFrom_eq_ok {read chars : List Char} (h : decodeFrom read bytes = .ok chars) :
    ∃ later, chars = read.reverse ++ later ∧ bytes = later.flatMap String.utf8EncodeChar := by
  fun_induction decodeFrom read bytes with
  | case1 read => exact ⟨[], by simpa using (Except.ok.inj h).symm, rfl⟩
  | case2 read b bytes flaw hcharacter => cases h
  | case3 read b bytes c rest hcharacter hlength ih =>
    obtain ⟨later, rfl, rfl⟩ := ih h
    refine ⟨c :: later, ?_, character_eq_ok_iff.1 hcharacter⟩
    simp

/-- A flaw lies in malformed bytes, and behind those of a text. -/
theorem decodeFrom_eq_error {read : List Char} {flaw : Flaw}
    (h : decodeFrom read bytes = .error (flaw, rest)) :
    ∃ chars : List Char, bytes = chars.flatMap String.utf8EncodeChar ++ rest ∧ Malformed rest := by
  fun_induction decodeFrom read bytes with
  | case1 read => cases h
  | case2 read b bytes other hcharacter =>
    obtain ⟨rfl, rfl⟩ := Prod.mk.inj (Except.error.inj h)
    refine ⟨[], rfl, ?_⟩
    rcases encode_or_malformed b bytes with ⟨c, rest, hencode⟩ | hmalformed
    · rw [character_eq_ok_iff.2 hencode] at hcharacter
      cases hcharacter
    · exact hmalformed
  | case3 read b bytes c later hcharacter hlength ih =>
    obtain ⟨chars, rfl, hmalformed⟩ := ih h
    refine ⟨c :: chars, ?_, hmalformed⟩
    rw [character_eq_ok_iff.1 hcharacter, List.flatMap_cons, List.append_assoc]

end Decoding

/-! ## Well-formed bytes -/

/-- The bytes of a text. -/
def WellFormed (bytes : List UInt8) : Prop := ∃ text, encode text = bytes

/-- How far the bytes of texts reach from the front. -/
structure LongestPrefix (bytes : List UInt8) (length : Nat) : Prop where
  le : length ≤ bytes.length
  wellFormed : WellFormed (bytes.take length)
  longest : ∀ other ≤ bytes.length, WellFormed (bytes.take other) → other ≤ length

section WellFormed

variable {bytes rest : List UInt8}

theorem wellFormed_iff :
    WellFormed bytes ↔ ∃ chars : List Char, bytes = chars.flatMap String.utf8EncodeChar := by
  constructor
  · rintro ⟨text, rfl⟩
    exact ⟨text.toList, encode_eq_flatMap text⟩
  · rintro ⟨chars, rfl⟩
    refine ⟨String.ofList chars, ?_⟩
    rw [encode_eq_flatMap, String.toList_ofList]

/-- The first character can be told from what follows it. -/
theorem encode_append_inj {c d : Char} {rest' : List UInt8}
    (h : String.utf8EncodeChar c ++ rest = String.utf8EncodeChar d ++ rest') :
    c = d ∧ rest = rest' := by
  obtain ⟨b, tails, hencode, hcharacter⟩ := character_encode c rest
  rw [hencode, List.cons_append] at h
  rw [character_eq_ok_iff.2 h] at hcharacter
  obtain ⟨rfl, rfl⟩ := Prod.mk.inj (Except.ok.inj hcharacter)
  exact ⟨rfl, rfl⟩

/-- No text reaches into malformed bytes. -/
theorem Malformed.length_le {chars chars' : List Char} {rest' : List UInt8} (h : Malformed rest)
    (happend : chars'.flatMap String.utf8EncodeChar ++ rest' =
      chars.flatMap String.utf8EncodeChar ++ rest) :
    (chars'.flatMap String.utf8EncodeChar).length ≤
      (chars.flatMap String.utf8EncodeChar).length := by
  induction chars generalizing chars' with
  | nil =>
    rcases chars' with _ | ⟨c, chars'⟩
    · exact Nat.le_refl _
    · rw [List.flatMap_cons, List.append_assoc] at happend
      exact absurd happend.symm (h.ne_encode c _)
  | cons c chars ih =>
    rcases chars' with _ | ⟨d, chars'⟩
    · exact Nat.zero_le _
    · rw [List.flatMap_cons, List.flatMap_cons, List.append_assoc, List.append_assoc] at happend
      obtain ⟨rfl, hrest⟩ := encode_append_inj happend
      rw [List.flatMap_cons, List.flatMap_cons, List.length_append, List.length_append]
      exact Nat.add_le_add_left (ih hrest) _

/-- The text in front of malformed bytes is the longest one. -/
theorem Malformed.longestPrefix (h : Malformed rest) (text : String) :
    LongestPrefix (encode text ++ rest) (encode text).length where
  le := by
    rw [List.length_append]
    exact Nat.le_add_right _ _
  wellFormed := ⟨text, List.take_left.symm⟩
  longest := by
    intro other hother hwell
    obtain ⟨chars, hchars⟩ := wellFormed_iff.1 hwell
    have hsplit := List.take_append_drop other (encode text ++ rest)
    rw [hchars] at hsplit
    have hlength := congrArg List.length hchars
    rw [List.length_take_of_le hother] at hlength
    rw [encode_eq_flatMap] at hsplit ⊢
    rw [hlength]
    exact h.length_le hsplit

theorem LongestPrefix.unique {length length' : Nat} (h : LongestPrefix bytes length)
    (h' : LongestPrefix bytes length') : length = length' :=
  Nat.le_antisymm (h'.longest length h.le h.wellFormed) (h.longest length' h'.le h'.wellFormed)

theorem Malformed.ne_nil (h : Malformed rest) : rest ≠ [] := by
  rintro rfl
  cases h

/-- Malformed bytes make all bytes in front of them ill formed. -/
theorem Malformed.not_wellFormed (h : Malformed rest) (text : String) :
    ¬ WellFormed (encode text ++ rest) := by
  intro hwell
  have hwhole : WellFormed ((encode text ++ rest).take (encode text ++ rest).length) := by
    rwa [List.take_length]
  have hlongest := (h.longestPrefix text).longest _ (Nat.le_refl _) hwhole
  have hpos := List.length_pos_iff.2 h.ne_nil
  rw [List.length_append] at hlongest
  omega

theorem decode_cases (bytes : List UInt8) :
    (∃ text, decode bytes = .ok text ∧ encode text = bytes) ∨
      ∃ flaw text rest, decode bytes = .error ⟨flaw, (encode text).length⟩ ∧
        bytes = encode text ++ rest ∧ Malformed rest := by
  rw [decode]
  cases hdecode : decodeFrom [] bytes with
  | ok chars =>
    obtain ⟨later, hchars, rfl⟩ := decodeFrom_eq_ok hdecode
    rw [List.reverse_nil, List.nil_append] at hchars
    refine Or.inl ⟨_, rfl, ?_⟩
    rw [encode_eq_flatMap, String.toList_ofList, hchars]
  | error flawed =>
    obtain ⟨flaw, rest⟩ := flawed
    obtain ⟨chars, rfl, hmalformed⟩ := decodeFrom_eq_error hdecode
    have hencode : encode (String.ofList chars) = chars.flatMap String.utf8EncodeChar := by
      rw [encode_eq_flatMap, String.toList_ofList]
    refine Or.inr ⟨flaw, String.ofList chars, rest, ?_, ?_, hmalformed⟩
    · simp only [hencode, List.length_append, Nat.add_sub_cancel]
    · rw [hencode]

end WellFormed

end Text.Utf8

end Dataflow
