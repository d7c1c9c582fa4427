/-!
# UTF-8

Strict decoding of a byte string. A character is one byte below 0x80, or a lead byte followed by one
to three continuation bytes; the lead byte bounds the first continuation byte so that overlong
forms, surrogates and numbers above 0x10FFFF cannot be written. `decode` gives the text, or the
first flaw with the offset of the first byte of the character in which it lies.
-/

set_option autoImplicit false

namespace Dataflow.Text.Utf8

/-- What is wrong with a byte string that is not well formed. -/
inductive Flaw where
  | startByte
  | continuationByte
  | truncated
  deriving DecidableEq, Repr

/-- The words for a flaw. -/
def Flaw.message : Flaw → String
  | .startByte => "invalid start byte"
  | .continuationByte => "invalid continuation byte"
  | .truncated => "unexpected end of data"

/-- A flaw and the offset of the first byte of the character in which it lies. -/
structure FlawAt where
  flaw : Flaw
  offset : Nat
  deriving DecidableEq, Repr

/-- The words for a flaw and its place. -/
def FlawAt.message (f : FlawAt) : String :=
  f.flaw.message ++ " at byte " ++ Nat.repr f.offset

/-- An inclusive range of byte values. -/
structure ByteRange where
  low : Nat
  high : Nat
  deriving DecidableEq, Repr

/-- Whether a byte lies in a range. -/
def ByteRange.holds (r : ByteRange) (b : UInt8) : Bool :=
  r.low ≤ b.toNat && b.toNat ≤ r.high

/-- Any continuation byte. -/
def tail : ByteRange := ⟨0x80, 0xBF⟩

/-- What a lead byte contributes to the number of its character, and the ranges of the continuation
bytes that must follow it. -/
def lead (b : UInt8) : Option (Nat × List ByteRange) :=
  let n := b.toNat
  if n < 0x80 then some (n, [])
  else if n < 0xC2 then none
  else if n < 0xE0 then some (n - 0xC0, [tail])
  else if n = 0xE0 then some (0, [⟨0xA0, 0xBF⟩, tail])
  else if n = 0xED then some (0xD, [⟨0x80, 0x9F⟩, tail])
  else if n < 0xF0 then some (n - 0xE0, [tail, tail])
  else if n = 0xF0 then some (0, [⟨0x90, 0xBF⟩, tail, tail])
  else if n < 0xF4 then some (n - 0xF0, [tail, tail, tail])
  else if n = 0xF4 then some (4, [⟨0x80, 0x8F⟩, tail, tail])
  else none

/-- Reads the continuation bytes of a character whose number so far is `n`. -/
def continuation (n : Nat) : List ByteRange → List UInt8 → Except Flaw (Nat × List UInt8)
  | [], bytes => .ok (n, bytes)
  | _ :: _, [] => .error .truncated
  | r :: rs, b :: bytes =>
    if r.holds b then continuation (64 * n + (b.toNat - 0x80)) rs bytes
    else .error .continuationByte

/-- Reads the character that `b` leads. -/
def character (b : UInt8) (bytes : List UInt8) : Except Flaw (Char × List UInt8) :=
  match lead b with
  | none => .error .startByte
  | some (n, ranges) =>
    match continuation n ranges bytes with
    | .ok (m, rest) => .ok (Char.ofNat m, rest)
    | .error flaw => .error flaw

/-- Continuation bytes are taken from the front of the bytes. -/
theorem continuation_length {n : Nat} {rs : List ByteRange} {bytes rest : List UInt8} {m : Nat}
    (h : continuation n rs bytes = .ok (m, rest)) : rest.length ≤ bytes.length := by
  induction rs generalizing n bytes with
  | nil => simp_all [continuation]
  | cons r rs ih =>
    cases bytes with
    | nil => simp [continuation] at h
    | cons b bytes =>
      simp only [continuation] at h
      split at h
      · exact Nat.le_succ_of_le (ih h)
      · simp at h

/-- A character takes its lead byte and some of the bytes behind it. -/
theorem character_length {b : UInt8} {bytes rest : List UInt8} {c : Char}
    (h : character b bytes = .ok (c, rest)) : rest.length ≤ bytes.length := by
  unfold character at h
  split at h
  · simp at h
  · split at h
    · next heq =>
      simp only [Except.ok.injEq, Prod.mk.injEq] at h
      exact h.2 ▸ continuation_length heq
    · simp at h

/-- Decodes bytes behind the characters `read` (in reverse). A flaw comes with the bytes from the
first byte of its character on. -/
def decodeFrom (read : List Char) : List UInt8 → Except (Flaw × List UInt8) (List Char)
  | [] => .ok read.reverse
  | b :: bytes =>
    match h : character b bytes with
    | .error flaw => .error (flaw, b :: bytes)
    | .ok (c, rest) =>
      have : rest.length ≤ bytes.length := character_length h
      decodeFrom (c :: read) rest
  termination_by bytes => bytes.length

/-- The text of a byte string, or its first flaw. -/
def decode (bytes : List UInt8) : Except FlawAt String :=
  match decodeFrom [] bytes with
  | .ok text => .ok (String.ofList text)
  | .error (flaw, rest) => .error ⟨flaw, bytes.length - rest.length⟩

end Dataflow.Text.Utf8
