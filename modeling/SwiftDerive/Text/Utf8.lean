/-! # Texts in bytes

A text is stored as bytes, one to four for each character. The bytes are read one at a time; the
first byte of a character says how many follow and in which range the next one lies, so that
every character has one form only.
-/

namespace SwiftDerive.Text

set_option autoImplicit false

inductive Utf8Problem where
  | invalidStart | invalidContinuation | unexpectedEnd
  deriving DecidableEq, Repr

def Utf8Problem.message : Utf8Problem → String
  | .invalidStart => "invalid start byte"
  | .invalidContinuation => "invalid continuation byte"
  | .unexpectedEnd => "unexpected end of data"

/-- The first bytes that belong to no character: where they start, what they are, and why. -/
structure Utf8Fault where
  start : Nat
  bytes : List UInt8
  problem : Utf8Problem
  deriving DecidableEq, Repr

/-- A character of which not all bytes have been read: the bytes so far, the number they stand
for, and the ranges in which the bytes to come lie. -/
structure PartialChar where
  bytes : List UInt8
  value : Nat
  expected : List (Nat × Nat)

def continuation : Nat × Nat := (0x80, 0xBF)

/-- What the first byte of a character of several bytes announces. -/
def PartialChar.ofLead? (b : UInt8) : Option PartialChar :=
  let n := b.toNat
  if n < 0xC2 then none
  else if n < 0xE0 then some ⟨[b], n - 0xC0, [continuation]⟩
  else if n = 0xE0 then some ⟨[b], 0, [(0xA0, 0xBF), continuation]⟩
  else if n = 0xED then some ⟨[b], 0xD, [(0x80, 0x9F), continuation]⟩
  else if n < 0xF0 then some ⟨[b], n - 0xE0, [continuation, continuation]⟩
  else if n = 0xF0 then some ⟨[b], 0, [(0x90, 0xBF), continuation, continuation]⟩
  else if n = 0xF4 then some ⟨[b], 4, [(0x80, 0x8F), continuation, continuation]⟩
  else if n < 0xF4 then some ⟨[b], n - 0xF0, [continuation, continuation, continuation]⟩
  else none

/-- The characters of bytes behind a part of a character, or none. The first of the bytes stands
at `offset`. -/
def decodeFrom (offset : Nat) : Option PartialChar → List UInt8 → Except Utf8Fault (List Char)
  | none, [] => .ok []
  | some c, [] => .error ⟨offset - c.bytes.length, c.bytes, .unexpectedEnd⟩
  | none, b :: bs =>
    if b.toNat < 0x80 then (Char.ofNat b.toNat :: ·) <$> decodeFrom (offset + 1) none bs
    else
      match PartialChar.ofLead? b with
      | none => .error ⟨offset, [b], .invalidStart⟩
      | some c => decodeFrom (offset + 1) (some c) bs
  | some c, b :: bs =>
    let refused := .error ⟨offset - c.bytes.length, c.bytes, .invalidContinuation⟩
    match c.expected with
    | [] => refused
    | (low, high) :: expected =>
      if low ≤ b.toNat && b.toNat ≤ high then
        let value := c.value * 0x40 + (b.toNat - 0x80)
        if expected.isEmpty then (Char.ofNat value :: ·) <$> decodeFrom (offset + 1) none bs
        else decodeFrom (offset + 1) (some ⟨c.bytes ++ [b], value, expected⟩) bs
      else refused

def decodeUtf8 (bytes : List UInt8) : Except Utf8Fault (List Char) :=
  decodeFrom 0 none bytes

end SwiftDerive.Text
