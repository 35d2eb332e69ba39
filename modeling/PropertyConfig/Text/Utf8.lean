import PropertyConfig.Text.Basic

/-!
# UTF-8

The bytes of a text, and the text of some bytes. Any bytes have a text: each longest run of bytes
that could have started a character but did not go on to be one reads as the replacement character.
-/

namespace PropertyConfig.Text.Utf8

def encode (t : Text) : List UInt8 := t.flatMap String.utf8EncodeChar

/-- What is read where no character is. -/
def replacement : Char := '\uFFFD'

/-- What the first byte of a longer character says of the others. -/
structure Lead where
  /-- How many bytes follow. -/
  tail : Nat
  /-- The least and the greatest that the first of them can be. -/
  low : Nat
  high : Nat
  /-- The bits that the first byte itself gives. -/
  bits : Nat

/-- The ranges leave out encodings that are too long, surrogates, and numbers above the greatest
code point. -/
def lead? (b : Nat) : Option Lead :=
  if 0xC2 ≤ b ∧ b ≤ 0xDF then some ⟨1, 0x80, 0xBF, b - 0xC0⟩
  else if b = 0xE0 then some ⟨2, 0xA0, 0xBF, 0⟩
  else if b = 0xED then some ⟨2, 0x80, 0x9F, 0xD⟩
  else if 0xE1 ≤ b ∧ b ≤ 0xEF then some ⟨2, 0x80, 0xBF, b - 0xE0⟩
  else if b = 0xF0 then some ⟨3, 0x90, 0xBF, 0⟩
  else if 0xF1 ≤ b ∧ b ≤ 0xF3 then some ⟨3, 0x80, 0xBF, b - 0xF0⟩
  else if b = 0xF4 then some ⟨3, 0x80, 0x8F, 4⟩
  else none

/-- The character whose first bytes gave `bits`, and how many of the bytes at hand belong to it. -/
def readTail : (tail low high bits used : Nat) → List UInt8 → Char × Nat
  | 0, _, _, bits, used, _ => (Char.ofNat bits, used)
  | _ + 1, _, _, _, used, [] => (replacement, used)
  | tail + 1, low, high, bits, used, b :: rest =>
    if low ≤ b.toNat ∧ b.toNat ≤ high then
      readTail tail 0x80 0xBF (bits * 64 + b.toNat % 64) (used + 1) rest
    else (replacement, used)

/-- The character at the front of `b :: rest`, and how many bytes of `rest` belong to it. -/
def readChar (b : UInt8) (rest : List UInt8) : Char × Nat :=
  if b.toNat < 0x80 then (Char.ofNat b.toNat, 0)
  else
    match lead? b.toNat with
    | none => (replacement, 0)
    | some l => readTail l.tail l.low l.high l.bits 0 rest

/-- The text of some bytes, the first `skip` of which have been read already. -/
def decodeFrom : (skip : Nat) → List UInt8 → Text
  | _, [] => []
  | skip + 1, _ :: rest => decodeFrom skip rest
  | 0, b :: rest => (readChar b rest).1 :: decodeFrom (readChar b rest).2 rest

def decode (bytes : List UInt8) : Text := decodeFrom 0 bytes

end PropertyConfig.Text.Utf8
