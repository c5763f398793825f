import ParseReport.Text

/-!
Texts in UTF-8: their bytes, and texts from bytes, with the place and the kind of the first flaw.
-/

namespace ParseReport.Utf8

/-- The bytes of a text. -/
def encode (t : Text) : List UInt8 :=
  t.flatMap String.utf8EncodeChar

/-- What can be wrong with a sequence of bytes. -/
inductive Flaw
  | invalidStart
  | invalidContinuation
  | unexpectedEnd
deriving DecidableEq, Repr

/-- The first flaw, the bytes read for the character it is in, and where the first of them is. -/
structure DecodeError where
  flaw : Flaw
  position : Nat
  first : UInt8
  count : Nat
deriving DecidableEq, Repr

/-- A character of which some bytes are still owed; the next one lies between `low` and `high`. -/
structure Pending where
  position : Nat
  first : UInt8
  value : Nat
  owed : Nat
  low : Nat := 0x80
  high : Nat := 0xBF

/-- What the first byte of a character promises, given as the character's bits so far, the count of
bytes owed, and the range of the second byte; the ranges leave out long forms, surrogates and
numbers above U+10FFFF. -/
def lead? (position : Nat) (b : UInt8) : Option Pending :=
  let n := b.toNat
  if n < 0x80 then some ⟨position, b, n, 0, 0x80, 0xBF⟩
  else if n < 0xC2 then none
  else if n < 0xE0 then some ⟨position, b, n - 0xC0, 1, 0x80, 0xBF⟩
  else if n < 0xF0 then
    some ⟨position, b, n - 0xE0, 2,
      if n = 0xE0 then 0xA0 else 0x80, if n = 0xED then 0x9F else 0xBF⟩
  else if n < 0xF5 then
    some ⟨position, b, n - 0xF0, 3,
      if n = 0xF0 then 0x90 else 0x80, if n = 0xF4 then 0x8F else 0xBF⟩
  else none

/-- Reads bytes from a position on, with the character that is still incomplete, if any. -/
def decodeFrom : Option Pending → Nat → List UInt8 → Except DecodeError Text
  | none, _, [] => .ok []
  | some p, position, [] => .error ⟨.unexpectedEnd, p.position, p.first, position - p.position⟩
  | none, position, b :: bytes =>
    match lead? position b with
    | none => .error ⟨.invalidStart, position, b, 1⟩
    | some p =>
      if p.owed = 0 then (decodeFrom none (position + 1) bytes).map (Char.ofNat p.value :: ·)
      else decodeFrom (some p) (position + 1) bytes
  | some p, position, b :: bytes =>
    if p.low ≤ b.toNat ∧ b.toNat ≤ p.high then
      let value := p.value * 64 + (b.toNat - 0x80)
      if p.owed = 1 then (decodeFrom none (position + 1) bytes).map (Char.ofNat value :: ·)
      else
        decodeFrom (some ⟨p.position, p.first, value, p.owed - 1, 0x80, 0xBF⟩) (position + 1) bytes
    else .error ⟨.invalidContinuation, p.position, p.first, position - p.position⟩

/-- The text that bytes write. -/
def decode (bytes : List UInt8) : Except DecodeError Text :=
  decodeFrom none 0 bytes

/-- What a flaw is called. -/
def Flaw.message : Flaw → Text
  | .invalidStart => "invalid start byte".toList
  | .invalidContinuation => "invalid continuation byte".toList
  | .unexpectedEnd => "unexpected end of data".toList

/-- One byte is named with its value, several by the range of their positions. -/
def DecodeError.message (e : DecodeError) : Text :=
  "'utf-8' codec can't decode ".toList
    ++ (if e.count = 1 then
          "byte 0x".toList ++ hexadecimal 2 e.first.toNat ++ " in position ".toList
            ++ decimal e.position
        else
          "bytes in position ".toList ++ decimal e.position ++ "-".toList
            ++ decimal (e.position + e.count - 1))
    ++ ": ".toList ++ e.flaw.message

end ParseReport.Utf8
