import PropertyConfig.Text.Basic

/-!
# Digits

Numerals in a base up to sixteen, with letters of either case for the digits above nine.
-/

namespace PropertyConfig

/-- The value of a digit, whatever base it is used in. -/
def digitValue (c : Char) : Nat :=
  if c.isDigit then c.toNat - '0'.toNat
  else if 'a' ≤ c ∧ c ≤ 'f' then c.toNat - 'a'.toNat + 10
  else if 'A' ≤ c ∧ c ≤ 'F' then c.toNat - 'A'.toNat + 10
  else 0

def isHexDigit (c : Char) : Bool :=
  c.isDigit || ('a' ≤ c && c ≤ 'f') || ('A' ≤ c && c ≤ 'F')

/-- The number that a text of digits denotes. -/
def numeral (base : Nat) (digits : Text) : Nat :=
  digits.foldl (fun n c => base * n + digitValue c) 0

theorem numeral_concat (base : Nat) (digits : Text) (c : Char) :
    numeral base (digits ++ [c]) = base * numeral base digits + digitValue c := by
  simp [numeral]

/-- The decimal digits of a number, without leading zeros. -/
def decimalDigits (n : Nat) : Text := Nat.toDigits 10 n

/-- An integer in decimal, with a sign only where it is negative. -/
def decimalText (i : Int) : Text :=
  if i < 0 then '-' :: decimalDigits i.natAbs else decimalDigits i.natAbs

end PropertyConfig
