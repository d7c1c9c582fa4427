import Dataflow.Session
import Dataflow.Proofs.Lines

/-!
# Files and their texts

A file that holds a text in UTF-8 runs as the text itself. Decoding undoes encoding, character by
character: the lead byte of a character tells how many bytes follow and in which ranges
(`Utf8.lead_one` to `Utf8.lead_four`), the bytes that follow are in these ranges, and together they
give the number of the character back (`Utf8.character_encode`). The carriage returns of the text
become line feeds, which leaves its lines as they are, and nothing but the lines is read of a program
(`Session.ofSource_unifyReturns`).

Main statement: `file_runs_as_its_text`.
-/

set_option autoImplicit false

namespace Dataflow

/-! ## Bytes of a character -/

namespace Text.Utf8

section Bytes

variable {k : Nat}

theorem toNat_byte (h : k < 256) : (UInt8.ofNat k).toNat = k := by
  rw [UInt8.toNat_ofNat']
  exact Nat.mod_eq_of_lt h

/-- A character of one byte. -/
theorem lead_one (h : k < 0x80) : lead (UInt8.ofNat k) = some (k, []) := by
  simp only [lead, toNat_byte (show k < 256 by omega)]
  rw [if_pos h]

/-- The lead byte of a character of two bytes. -/
theorem lead_two (hlow : 0xC2 ≤ k) (hhigh : k < 0xE0) :
    lead (UInt8.ofNat k) = some (k - 0xC0, [tail]) := by
  simp only [lead, toNat_byte (show k < 256 by omega)]
  rw [if_neg (by omega), if_neg (by omega), if_pos hhigh]

/-- The range of the second byte of a character of three bytes: it keeps out overlong forms and
surrogates. -/
def secondOfThree (k : Nat) : ByteRange :=
  if k = 0xE0 then ⟨0xA0, 0xBF⟩ else if k = 0xED then ⟨0x80, 0x9F⟩ else tail

/-- The lead byte of a character of three bytes. -/
theorem lead_three (hlow : 0xE0 ≤ k) (hhigh : k < 0xF0) :
    lead (UInt8.ofNat k) = some (k - 0xE0, [secondOfThree k, tail]) := by
  simp only [lead, toNat_byte (show k < 256 by omega), secondOfThree]
  rw [if_neg (by omega), if_neg (by omega), if_neg (by omega)]
  by_cases hfirst : k = 0xE0
  · simp [hfirst]
  · by_cases hsurrogate : k = 0xED
    · simp [hsurrogate]
    · rw [if_neg hfirst, if_neg hsurrogate, if_neg hfirst, if_neg hsurrogate, if_pos hhigh]

/-- The range of the second byte of a character of four bytes: it keeps out overlong forms and
numbers that are too large. -/
def secondOfFour (k : Nat) : ByteRange :=
  if k = 0xF0 then ⟨0x90, 0xBF⟩ else if k = 0xF4 then ⟨0x80, 0x8F⟩ else tail

/-- The lead byte of a character of four bytes. -/
theorem lead_four (hlow : 0xF0 ≤ k) (hhigh : k < 0xF5) :
    lead (UInt8.ofNat k) = some (k - 0xF0, [secondOfFour k, tail, tail]) := by
  simp only [lead, toNat_byte (show k < 256 by omega), secondOfFour]
  rw [if_neg (by omega), if_neg (by omega), if_neg (by omega), if_neg (by omega),
    if_neg (by omega), if_neg (by omega)]
  by_cases hfirst : k = 0xF0
  · simp [hfirst]
  · by_cases hlast : k = 0xF4
    · simp [hlast]
    · rw [if_neg hfirst, if_pos (by omega), if_neg hfirst, if_neg hlast]

/-- A byte in the range that it must be in adds its six bits. -/
theorem continuation_cons {range : ByteRange} (hlow : range.low ≤ k) (hhigh : k ≤ range.high)
    (hbyte : k < 256) (n : Nat) (ranges : List ByteRange) (bytes : List UInt8) :
    continuation n (range :: ranges) (UInt8.ofNat k :: bytes) =
      continuation (64 * n + (k - 0x80)) ranges bytes := by
  have hholds : range.holds (UInt8.ofNat k) = true := by
    simp [ByteRange.holds, toNat_byte hbyte, hlow, hhigh]
  rw [continuation, if_pos hholds, toNat_byte hbyte]

/-- A byte that carries six bits is a continuation byte. -/
theorem continuation_tail (n m : Nat) (ranges : List ByteRange) (bytes : List UInt8) :
    continuation n (tail :: ranges) (UInt8.ofNat (m % 64 + 0x80) :: bytes) =
      continuation (64 * n + m % 64) ranges bytes := by
  rw [continuation_cons (by simp [tail]) (by simp only [tail]; omega) (by omega)]
  simp

end Bytes

/-! ## Numbers of characters -/

section Numbers

variable {n : Nat} (rest : List UInt8)

theorem continuation_two (hhigh : n < 0x800) :
    continuation (n / 64 % 32 + 0xC0 - 0xC0) [tail] (UInt8.ofNat (n % 64 + 0x80) :: rest) =
      .ok (n, rest) := by
  have hnumber : 64 * (n / 64 % 32 + 0xC0 - 0xC0) + n % 64 = n := by omega
  rw [continuation_tail, hnumber, continuation]

theorem continuation_three (hlow : 0x800 ≤ n) (hhigh : n < 0x10000)
    (hvalid : n < 0xD800 ∨ 0xDFFF < n) :
    continuation (n / 4096 % 16 + 0xE0 - 0xE0) [secondOfThree (n / 4096 % 16 + 0xE0), tail]
        (UInt8.ofNat (n / 64 % 64 + 0x80) :: UInt8.ofNat (n % 64 + 0x80) :: rest) =
      .ok (n, rest) := by
  have hsecond : (secondOfThree (n / 4096 % 16 + 0xE0)).low ≤ n / 64 % 64 + 0x80 ∧
      n / 64 % 64 + 0x80 ≤ (secondOfThree (n / 4096 % 16 + 0xE0)).high := by
    rw [secondOfThree]
    split
    · -- a smaller second byte would belong to a number below 0x800
      simp only
      omega
    · split
      · -- a larger one would belong to a surrogate
        simp only
        omega
      · simp only [tail]
        omega
  have hnumber : 64 * (64 * (n / 4096 % 16 + 0xE0 - 0xE0) + (n / 64 % 64 + 0x80 - 0x80)) +
      n % 64 = n := by omega
  rw [continuation_cons hsecond.1 hsecond.2 (by omega), continuation_tail, hnumber, continuation]

theorem continuation_four (hlow : 0x10000 ≤ n) (hhigh : n < 0x110000) :
    continuation (n / 262144 % 8 + 0xF0 - 0xF0) [secondOfFour (n / 262144 % 8 + 0xF0), tail, tail]
        (UInt8.ofNat (n / 4096 % 64 + 0x80) :: UInt8.ofNat (n / 64 % 64 + 0x80) ::
          UInt8.ofNat (n % 64 + 0x80) :: rest) =
      .ok (n, rest) := by
  have hsecond : (secondOfFour (n / 262144 % 8 + 0xF0)).low ≤ n / 4096 % 64 + 0x80 ∧
      n / 4096 % 64 + 0x80 ≤ (secondOfFour (n / 262144 % 8 + 0xF0)).high := by
    rw [secondOfFour]
    split
    · simp only
      omega
    · split
      · simp only
        omega
      · simp only [tail]
        omega
  have hnumber : 64 * (64 * (64 * (n / 262144 % 8 + 0xF0 - 0xF0) +
      (n / 4096 % 64 + 0x80 - 0x80)) + n / 64 % 64) + n % 64 = n := by omega
  rw [continuation_cons hsecond.1 hsecond.2 (by omega), continuation_tail, continuation_tail,
    hnumber, continuation]

end Numbers

/-! ## Decoding what was encoded -/

/-- A character is what its lead byte and the bytes behind it make up. -/
theorem character_eq_ok {b : UInt8} {n : Nat} {ranges : List ByteRange} {bytes rest : List UInt8}
    {c : Char} (hlead : lead b = some (n, ranges))
    (hcontinuation : continuation n ranges bytes = .ok (c.toNat, rest)) :
    character b bytes = .ok (c, rest) := by
  rw [character, hlead]
  simp only [hcontinuation, Char.ofNat_toNat]

/-- The bytes of a character are read as this character, whatever follows them. -/
theorem character_encode (c : Char) (rest : List UInt8) :
    ∃ b bytes, String.utf8EncodeChar c = b :: bytes ∧
      character b (bytes ++ rest) = .ok (c, rest) := by
  have hvalid : c.toNat < 0xD800 ∨ 0xDFFF < c.toNat ∧ c.toNat < 0x110000 := c.valid
  simp only [String.utf8EncodeChar, Char.toNat_val]
  split
  · exact ⟨_, _, rfl, character_eq_ok (lead_one (by omega)) rfl⟩
  · split
    · exact ⟨_, _, rfl, character_eq_ok (lead_two (by omega) (by omega))
        (continuation_two rest (by omega))⟩
    · split
      · exact ⟨_, _, rfl, character_eq_ok (lead_three (by omega) (by omega))
          (continuation_three rest (by omega) (by omega) (by omega))⟩
      · exact ⟨_, _, rfl, character_eq_ok (lead_four (by omega) (by omega))
          (continuation_four rest (by omega) (by omega))⟩

theorem decodeFrom_encode (read chars : List Char) :
    decodeFrom read (chars.flatMap String.utf8EncodeChar) = .ok (read.reverse ++ chars) := by
  induction chars generalizing read with
  | nil => simp [decodeFrom]
  | cons c chars ih =>
    obtain ⟨b, bytes, hencode, hread⟩ :=
      character_encode c (chars.flatMap String.utf8EncodeChar)
    rw [List.flatMap_cons, hencode, List.cons_append, decodeFrom]
    split
    · next flaw hflaw =>
      rw [hread] at hflaw
      cases hflaw
    · next d rest hnext =>
      rw [hread] at hnext
      obtain ⟨rfl, rfl⟩ := Prod.mk.inj (Except.ok.inj hnext)
      rw [ih]
      simp

/-- The bytes of a text in UTF-8. -/
def encode (text : String) : List UInt8 := text.toUTF8.data.toList

theorem encode_eq_flatMap (text : String) :
    encode text = text.toList.flatMap String.utf8EncodeChar := by
  rw [encode, String.toUTF8_eq_toByteArray, ← String.utf8Encode_toList, List.utf8Encode,
    List.toList_data_toByteArray]

/-- Decoding undoes encoding. -/
theorem decode_encode (text : String) : decode (encode text) = .ok text := by
  rw [encode_eq_flatMap, decode, decodeFrom_encode]
  simp

end Text.Utf8

/-! ## Running -/

/-- Nothing but the lines of a text is read. -/
theorem Session.ofText_unifyReturns (settings : Settings) (listener : Option Listener)
    (text : String) :
    ofText settings listener (Text.unifyReturns text) = ofText settings listener text := by
  simp only [ofText, Text.lines_unifyReturns]

theorem Session.ofSource_unifyReturns (environment : Environment) (settings : Option Settings)
    (listener : Option Listener) (text : String) :
    ofSource environment settings listener (Text.unifyReturns text) =
      ofSource environment settings listener text := by
  cases settings with
  | some settings => exact ofText_unifyReturns settings listener text
  | none =>
    rw [ofSource, ofSource]
    cases Settings.load environment .none with
    | error fault => rfl
    | ok settings => exact ofText_unifyReturns settings listener text

/-- A file that holds a text in UTF-8 runs as the text itself, under given settings or under those of
the environment and with any listener or none: however many steps are allowed, neither run has ended,
or both have with the same journal, the same values told and the same report or failure. -/
theorem file_runs_as_its_text (steps : Nat) (environment : Environment)
    (settings : Option Settings) (listener : Option Listener) (path text : String) :
    runFile steps environment settings listener path (Text.Utf8.encode text) =
      runSource steps environment settings listener text := by
  rw [runFile, runSource, Session.ofFile, Text.Utf8.decode_encode]
  simp only [Session.ofSource_unifyReturns]

end Dataflow
