import PropertyConfig.Number.Digits

/-!
# IPv4 addresses in hosts

An address has up to four parts with points between them, in decimal, octal or hexadecimal. The last
part fills up what the others leave of the 32 bits.
-/

namespace PropertyConfig.Url.Ipv4

def isOctalDigit (c : Char) : Bool := '0' ≤ c && c ≤ '7'

/-- The number that a part of an address denotes. -/
def part? (t : Text) : Option Nat :=
  match t with
  | [] => none
  | '0' :: 'x' :: digits => if digits.all isHexDigit then some (numeral 16 digits) else none
  | '0' :: 'X' :: digits => if digits.all isHexDigit then some (numeral 16 digits) else none
  | '0' :: d :: digits =>
    if (d :: digits).all isOctalDigit then some (numeral 8 (d :: digits)) else none
  | digits => if digits.all Char.isDigit then some (numeral 10 digits) else none

/-- The parts of a host, without an empty one behind a point at the end. -/
def parts (t : Text) : List Text :=
  let parts := Text.splitAt '.' t
  if 1 < parts.length ∧ parts.getLast? = some [] then parts.dropLast else parts

/-- A host is an address, or a faulty one, if its last part is a number. -/
def endsInNumber (t : Text) : Bool :=
  match (parts t).getLast? with
  | none | some [] => false
  | some last => last.all Char.isDigit || (part? last).isSome

/-- How many numbers can be written in some bytes. -/
def byteSpan (bytes : Nat) : Nat := Nat.pow 256 bytes

/-- The address that parts with these numbers denote: all but the last are bytes. -/
def combine? (numbers : List Nat) : Option Nat :=
  match numbers.getLast? with
  | none => none
  | some last =>
    let bytes := numbers.dropLast
    if 3 < bytes.length ∨ bytes.any (255 < ·) ∨ byteSpan (4 - bytes.length) ≤ last then none
    else some (bytes.foldl (fun n b => 256 * n + b) 0 * byteSpan (4 - bytes.length) + last)

/-- Reads an address. -/
def read? (t : Text) : Option Nat := ((parts t).mapM part?).bind combine?

/-- The four bytes of an address, in decimal. -/
def text (address : Nat) : Text :=
  Text.join ['.'] ([3, 2, 1, 0].map fun i => decimalDigits (address / byteSpan i % 256))

end PropertyConfig.Url.Ipv4
