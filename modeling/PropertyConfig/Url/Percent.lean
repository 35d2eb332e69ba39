import PropertyConfig.Number.Digits
import PropertyConfig.Text.Utf8

/-!
# Percent-encoding

A character that may not stand in some part of a URL is written as its bytes, each as `%` and two
hexadecimal digits. Which characters these are depends on the part; controls and characters outside
ASCII are among them everywhere.
-/

namespace PropertyConfig.Url

def isControlOrWide (c : Char) : Bool := c.toNat < 0x20 || 0x7F ≤ c.toNat

def hexDigit (n : Nat) : Char := if n < 10 then Char.ofNat (0x30 + n) else Char.ofNat (0x37 + n)

def encodeByte (b : UInt8) : Text := ['%', hexDigit (b.toNat / 16), hexDigit (b.toNat % 16)]

/-- Writes a text so that none of the characters in `set`, nor a control, stands in it. -/
def encode (set : List Char) (t : Text) : Text :=
  t.flatMap fun c =>
    if isControlOrWide c || set.contains c then (String.utf8EncodeChar c).flatMap encodeByte
    else [c]

/-- The bytes that a text stands for. A `%` without two digits behind it stands for itself. -/
def decode : Text → List UInt8
  | [] => []
  | '%' :: a :: b :: t =>
    if isHexDigit a && isHexDigit b then (numeral 16 [a, b]).toUInt8 :: decode t
    else 0x25 :: decode (a :: b :: t)
  | c :: t => String.utf8EncodeChar c ++ decode t

/-! ## The sets -/

def fragmentSet : List Char := [' ', '"', '<', '>', '\x60']
def pathSet : List Char := fragmentSet ++ ['#', '?', '\x7b', '\x7d']
/-- What may not stand in one segment of a path. -/
def segmentSet : List Char := pathSet ++ ['/', '%', '\\']
def querySet : List Char := [' ', '"', '#', '<', '>']
/-- What may not stand in the query of a scheme with a special meaning. -/
def specialQuerySet : List Char := querySet ++ ['\'']
def userSet : List Char := pathSet ++ ['/', ':', ';', '=', '@', '[', '\\', ']', '^', '|']

end PropertyConfig.Url
