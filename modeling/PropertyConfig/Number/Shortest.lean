import PropertyConfig.Number.Digits
import PropertyConfig.Number.Binary

/-!
# The shortest decimal of a binary number

Among the decimals that read back as a given number, those with the fewest digits are the shortest,
and of these the nearest is written; of two that are equally near, the greater one. All comparisons
are made on natural numbers.
-/

namespace PropertyConfig

/-- The decimal `digits · 10 ^ exponent`. -/
structure Decimal where
  digits : Nat
  exponent : Int
deriving DecidableEq, Repr

namespace BinaryFormat

/-- The numbers that round to a given one, in quarters of its unit: the quarters of the number
itself, the distance down to the lower end, the exponent of a quarter, and whether the ends belong
to them. The upper end is two quarters up. -/
structure Neighbourhood where
  middle : Nat
  down : Nat
  exponent : Int
  closed : Bool

/-- The neighbourhood of a place. Below a power of two the next place is only half as far away. -/
def neighbourhood (f : BinaryFormat) (place : Nat) : Neighbourhood :=
  let (m, e) := f.decompose place
  let down := if m = f.span ∧ f.leastExponent < e then 1 else 2
  ⟨4 * m, down, e - 2, m % 2 == 0⟩

end BinaryFormat

namespace Decimal

/-- The numerators of `a · 2 ^ p` and `b · 10 ^ q` over a denominator that they share. -/
def alike (a : Nat) (p : Int) (b : Nat) (q : Int) : Nat × Nat :=
  (a * Nat.pow 2 p.toNat * Nat.pow 10 (-q).toNat, b * Nat.pow 10 q.toNat * Nat.pow 2 (-p).toNat)

/-- Whether a decimal lies within a neighbourhood. -/
def within (n : BinaryFormat.Neighbourhood) (d : Decimal) : Bool :=
  let (low, x) := alike (n.middle - n.down) n.exponent d.digits d.exponent
  let (high, y) := alike (n.middle + 2) n.exponent d.digits d.exponent
  if n.closed then low ≤ x && y ≤ high else low < x && y < high

/-- Of a decimal below and one above the middle, the one to write, if any reads back. -/
def choose? (n : BinaryFormat.Neighbourhood) (below above : Decimal) : Option Decimal :=
  let (middle, x) := alike n.middle n.exponent below.digits below.exponent
  let (_, y) := alike n.middle n.exponent above.digits above.exponent
  match within n below, within n above with
  | true, true => some (if middle - x < y - middle then below else above)
  | true, false => some below
  | false, true => some above
  | false, false => none

/-- The shortest decimal that ends at the power of ten `exponent` or, if none does, at a lower one;
at most `fuel` powers are tried. -/
def search (n : BinaryFormat.Neighbourhood) : (fuel : Nat) → (exponent : Int) → Decimal
  | 0, exponent => ⟨0, exponent⟩
  | fuel + 1, exponent =>
    let (a, b) := alike n.middle n.exponent 1 exponent
    match choose? n ⟨a / b, exponent⟩ ⟨a / b + 1, exponent⟩ with
    | some d => d
    | none => search n fuel (exponent - 1)

/-- A power of ten above every number of the two formats, and how many powers there are from it to
one below every distance between such numbers. -/
def greatestExponent : Int := 310

def exponentCount : Nat := 660

/-- The shortest decimal of the number at a place other than zero and infinity. -/
def shortest (f : BinaryFormat) (place : Nat) : Decimal :=
  search (f.neighbourhood place) exponentCount greatestExponent

/-- A decimal written with a point, and without an exponent. -/
def positional (d : Decimal) : Text :=
  let digits := decimalDigits d.digits
  if 0 ≤ d.exponent then digits ++ List.replicate d.exponent.toNat '0' ++ ['.', '0']
  else
    let places := (-d.exponent).toNat
    if places < digits.length then
      digits.take (digits.length - places) ++ '.' :: digits.drop (digits.length - places)
    else '0' :: '.' :: (List.replicate (places - digits.length) '0' ++ digits)

end Decimal

/-- A number as people read it: without an exponent, with a point in it, and shortest. -/
def Binary.text {f : BinaryFormat} (x : Binary f) : Text :=
  let size :=
    if x.place = 0 then ['0', '.', '0']
    else if x.isInfinite then ['i', 'n', 'f']
    else (Decimal.shortest f x.place).positional
  if x.negative then '-' :: size else size

end PropertyConfig
