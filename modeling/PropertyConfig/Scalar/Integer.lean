import PropertyConfig.Text.Blank
import PropertyConfig.Number.Literal

/-!
# Integers

An integer is an optional sign and digits, decimal ones or, behind `0x` or `0X`, hexadecimal ones.
Read strictly it has to be the whole text, blanks at the ends aside; otherwise the text may go on
behind its digits. What does not fit the width is no integer.
-/

namespace PropertyConfig

/-- The widths that integers come in. -/
inductive Width
  | bits32
  | bits64
  | bits128
deriving DecidableEq, Repr

namespace Width

def bits : Width → Nat
  | .bits32 => 32
  | .bits64 => 64
  | .bits128 => 128

/-- How many negative integers there are, and how many others. -/
def half (w : Width) : Nat := Nat.pow 2 (w.bits - 1)

def least (w : Width) : Int := -w.half

def greatest (w : Width) : Int := w.half - 1

def contains (w : Width) (i : Int) : Bool := w.least ≤ i && i ≤ w.greatest

end Width

namespace Integer

/-- The base of an unsigned integer, and the text in which its digits are. -/
def splitBase : Text → Nat × Text
  | '0' :: 'x' :: t => (16, t)
  | '0' :: 'X' :: t => (16, t)
  | t => (10, t)

def isDigitIn (base : Nat) (c : Char) : Bool := if base = 16 then isHexDigit c else c.isDigit

/-- The greatest number that may stand behind a sign, whatever the width. -/
def greatestSize : Nat := Width.bits128.half - 1

/-- The integer that a text denotes, before it is known to fit a width (`parse_integer`). -/
def denoted? (strict : Bool) (t : Text) : Option Int :=
  let (sign, unsigned) := splitSign (Text.trim t)
  let (base, t) := splitBase unsigned
  let digits := t.takeWhile (isDigitIn base)
  let size := numeral base digits
  if digits = [] ∨ (strict = true ∧ digits ≠ t) ∨ greatestSize < size then none
  else if sign = ['-'] then some (-size) else some size

def read? (w : Width) (strict : Bool) (t : Text) : Option Int :=
  (denoted? strict t).filter w.contains

end Integer

end PropertyConfig
