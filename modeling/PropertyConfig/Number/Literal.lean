import PropertyConfig.Number.Digits
import PropertyConfig.Number.Binary

/-!
# Literals of decimal numbers

A literal is an optional sign, digits with an optional point among, before or behind them, and an
optional exponent. `Literal.scan?` finds the longest literal that a text starts with, and `round`
gives the number of a binary format nearest to what a literal denotes.
-/

namespace PropertyConfig

/-- The digits in base ten that a text starts with. -/
def leadingDigits (t : Text) : Text := t.takeWhile Char.isDigit

/-- What follows these digits. -/
def afterDigits (t : Text) : Text := t.dropWhile Char.isDigit

/-- A sign at the front of a text, if there is one, and what follows it. -/
def splitSign : Text → Text × Text
  | '-' :: t => (['-'], t)
  | '+' :: t => (['+'], t)
  | t => ([], t)

/-- The exponent of a literal, as it is written. -/
structure Exponent where
  marker : Char
  sign : Text
  digits : Text
deriving DecidableEq, Repr

/-- The parts of a literal, as they are written; `fraction` is what stands behind the point. -/
structure Literal where
  sign : Text
  whole : Text
  fraction : Option Text
  exponent : Option Exponent
deriving DecidableEq, Repr

namespace Exponent

def written (e : Exponent) : Text := e.marker :: (e.sign ++ e.digits)

def value (e : Exponent) : Int :=
  if e.sign = ['-'] then -(numeral 10 e.digits : Int) else numeral 10 e.digits

/-- An exponent at the front of a text. A marker with no digits is none. -/
def scan (t : Text) : Option Exponent × Text :=
  match t with
  | [] => (none, [])
  | c :: rest =>
    let (sign, digits) := splitSign rest
    if (c = 'e' ∨ c = 'E') ∧ leadingDigits digits ≠ [] then
      (some ⟨c, sign, leadingDigits digits⟩, afterDigits digits)
    else (none, t)

end Exponent

namespace Literal

def written (l : Literal) : Text :=
  l.sign ++ l.whole ++ (l.fraction.elim [] ('.' :: ·)) ++ (l.exponent.elim [] Exponent.written)

/-- A point at the front of a text with the digits behind it. Where no digits stand before the
point, `whole` being empty, some have to stand behind it. -/
def scanFraction (whole t : Text) : Option Text × Text :=
  match t with
  | '.' :: rest =>
    if whole = [] ∧ leadingDigits rest = [] then (none, t)
    else (some (leadingDigits rest), afterDigits rest)
  | _ => (none, t)

/-- The longest literal that a text starts with (`float_prefix`), and what follows it. -/
def scan? (t : Text) : Option (Literal × Text) :=
  let (sign, unsigned) := splitSign t
  let whole := leadingDigits unsigned
  let (fraction, rest) := scanFraction whole (afterDigits unsigned)
  if whole = [] ∧ fraction = none then none
  else
    let (exponent, rest) := Exponent.scan rest
    some (⟨sign, whole, fraction, exponent⟩, rest)

/-- The literal that is the whole text. -/
def read? (t : Text) : Option Literal :=
  match scan? t with
  | some (l, []) => some l
  | _ => none

/-- All digits, as one number. -/
def coefficient (l : Literal) : Nat := numeral 10 (l.whole ++ l.fraction.getD [])

/-- The power of ten that the coefficient is multiplied with. -/
def scaleExponent (l : Literal) : Int :=
  (l.exponent.elim 0 Exponent.value) - (l.fraction.getD []).length

/-- Powers of ten from here on are beyond every format, and their inverses round to zero. -/
def beyond : Int := 400

/-- The place in a format of the number without its sign. -/
def place (f : BinaryFormat) (l : Literal) : Nat :=
  let size := (decimalDigits l.coefficient).length + l.scaleExponent
  if l.coefficient = 0 ∨ size ≤ -beyond then 0
  else if beyond < size then f.infinity
  else
    f.place ⟨l.coefficient * Nat.pow 10 l.scaleExponent.toNat, Nat.pow 10 (-l.scaleExponent).toNat⟩

/-- The number of the format nearest to the literal; a zero keeps its sign. -/
def round (f : BinaryFormat) (l : Literal) : Binary f := ⟨l.sign = ['-'], l.place f⟩

end Literal

end PropertyConfig
