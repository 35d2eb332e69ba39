import PropertyConfig.Text.Blank
import PropertyConfig.Number.Literal

/-!
# Floating-point numbers

A number is written as a decimal literal and read as the nearest one in the format of 64 bits. Read
strictly it has to be the whole text, blanks at the ends aside; otherwise the text may go on behind
it.
-/

namespace PropertyConfig.Real

def read? (strict : Bool) (t : Text) : Option Double :=
  match Literal.scan? (Text.trim t) with
  | none => none
  | some (l, rest) => if strict = true ∧ rest ≠ [] then none else some (l.round binary64)

/-- A number of 32 bits is read as one of 64 bits first. -/
def readSingle? (strict : Bool) (t : Text) : Option Single :=
  (read? strict t).map (Binary.convert binary32)

end PropertyConfig.Real
