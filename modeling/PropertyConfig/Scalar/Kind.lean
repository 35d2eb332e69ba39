import PropertyConfig.Scalar.Flag
import PropertyConfig.Scalar.Integer
import PropertyConfig.Scalar.Real

/-!
# Kinds of values

The kinds that the text of a property can be read as, each with the type of its values.
-/

namespace PropertyConfig

inductive Kind
  | text
  | flag
  | integer (width : Width)
  | double
  | single
deriving DecidableEq, Repr

namespace Kind

abbrev Value : Kind → Type
  | .text => Text
  | .flag => Bool
  | .integer _ => Int
  | .double => Double
  | .single => Single

/-- Reads a value (`from_property`); `strict` forbids anything behind it. -/
def read? : (k : Kind) → (strict : Bool) → Text → Option k.Value
  | .text, _, t => some t
  | .flag, strict, t => Flag.read? strict t
  | .integer w, strict, t => Integer.read? w strict t
  | .double, strict, t => Real.read? strict t
  | .single, strict, t => Real.readSingle? strict t

/-- What a value of the kind is called in messages. -/
def expected : Kind → String
  | .text => "a string"
  | .flag => "a boolean"
  | .integer .bits32 => "an int"
  | .integer .bits64 => "a long"
  | .integer .bits128 => "a big integer"
  | .double => "a double"
  | .single => "a float"

end Kind

end PropertyConfig
