/-!
# Binary floating-point numbers

A binary floating-point format lays the numbers that it can represent out in order of their size, so
that a nonnegative number is given by its place in that order: zero is at place 0, the least number
above it at place 1, and infinity stands behind the greatest finite number. `BinaryFormat.place`
rounds a quotient of natural numbers to the nearest place, a tie to the even one, and `value` goes
back. A number of the format, `Binary f`, is a place and a sign.
-/

namespace PropertyConfig

/-- How many bits a format has for the fraction and for the exponent. -/
structure BinaryFormat where
  fractionBits : Nat
  exponentBits : Nat
deriving DecidableEq, Repr

/-- The format of 64 bits. -/
def binary64 : BinaryFormat := ⟨52, 11⟩

/-- The format of 32 bits. -/
def binary32 : BinaryFormat := ⟨23, 8⟩

/-- A quotient, as `numerator / denominator`. -/
structure Quotient where
  numerator : Nat
  denominator : Nat
deriving Repr

namespace Quotient

/-- The quotient times the power `2 ^ k`. -/
def scale (x : Quotient) (k : Int) : Quotient :=
  ⟨x.numerator * Nat.pow 2 k.toNat, x.denominator * Nat.pow 2 (-k).toNat⟩

/-- The nearest natural number, the even one of two. -/
def round (x : Quotient) : Nat :=
  let q := x.numerator / x.denominator
  let twice := 2 * (x.numerator % x.denominator)
  if twice < x.denominator then q
  else if x.denominator < twice then q + 1
  else if q % 2 = 0 then q
  else q + 1

/-- The exponent of the greatest power of two that is not above the quotient, which is not 0. -/
def log2 (x : Quotient) : Int :=
  let k : Int := x.numerator.log2 - x.denominator.log2
  let y := x.scale (-k)
  if y.denominator ≤ y.numerator then k else k - 1

end Quotient

namespace BinaryFormat

/-- The exponent of the distance between zero and the least number above it. -/
def leastExponent (f : BinaryFormat) : Int :=
  2 - (Nat.pow 2 (f.exponentBits - 1) : Nat) - f.fractionBits

/-- How many places there are before the distance between neighbours doubles. -/
def span (f : BinaryFormat) : Nat := Nat.pow 2 f.fractionBits

/-- The place of infinity. -/
def infinity (f : BinaryFormat) : Nat := (Nat.pow 2 f.exponentBits - 1) * f.span

/-- The place nearest to a quotient. It is counted in the distance of the places around it, a power
of two. -/
def place (f : BinaryFormat) (x : Quotient) : Nat :=
  if x.numerator = 0 then 0
  else
    let e := max f.leastExponent (x.log2 - f.fractionBits)
    let place := (e - f.leastExponent).toNat * f.span + (x.scale (-e)).round
    min place f.infinity

/-- The unit at a place that is not infinity, and how many such units make up its number. -/
def decompose (f : BinaryFormat) (place : Nat) : Nat × Int :=
  if place < f.span then (place, f.leastExponent)
  else (f.span + place % f.span, f.leastExponent + (place / f.span - 1 : Nat))

/-- The number at a place that is not infinity. -/
def value (f : BinaryFormat) (place : Nat) : Quotient :=
  let (m, e) := f.decompose place
  Quotient.scale ⟨m, 1⟩ e

end BinaryFormat

/-- A number of a format, infinities included. -/
structure Binary (f : BinaryFormat) where
  negative : Bool
  place : Nat
deriving DecidableEq, Repr

namespace Binary

def round (f : BinaryFormat) (negative : Bool) (x : Quotient) : Binary f := ⟨negative, f.place x⟩

def ofInt (f : BinaryFormat) (i : Int) : Binary f := round f (i < 0) ⟨i.natAbs, 1⟩

def isInfinite {f : BinaryFormat} (x : Binary f) : Bool := x.place == f.infinity

/-- The nearest number of another format. -/
def convert {f : BinaryFormat} (g : BinaryFormat) (x : Binary f) : Binary g :=
  if x.isInfinite then ⟨x.negative, g.infinity⟩ else round g x.negative (f.value x.place)

/-- The interchange encoding: the sign in front of the place. -/
def bits {f : BinaryFormat} (x : Binary f) : Nat :=
  (if x.negative then Nat.pow 2 (f.exponentBits + f.fractionBits) else 0) + x.place

end Binary

abbrev Double := Binary binary64
abbrev Single := Binary binary32

end PropertyConfig
