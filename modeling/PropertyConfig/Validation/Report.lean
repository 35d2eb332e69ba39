import PropertyConfig.Store.Read
import PropertyConfig.Validation.KeyAttribute

/-!
# Holding a store against the expected keys

Each attribute is checked on its own, in order. Keys of the store that no attribute names are listed
too; they are no errors.
-/

namespace PropertyConfig

structure ValidationReport where
  errors : List KeyAttributeError
  unrecognized : List Text
deriving DecidableEq, Repr

def ValidationReport.isValid (r : ValidationReport) : Bool := r.errors.isEmpty

/-- The kind that values are read as to check them. -/
def ValueKind.readAs : ValueKind → Kind
  | .text => .text
  | .integer => .integer .bits64
  | .real => .double
  | .flag => .flag

/-- Whether a text, as a whole, is a value. -/
def ValueKind.accepts (k : ValueKind) (t : Text) : Bool := (k.readAs.read? true t).isSome

namespace KeyAttribute

/-- More than one of the names is defined. -/
def ambiguity (s : Store) (a : KeyAttribute) : List KeyAttributeError :=
  if 1 < (a.keys.filter s.contains).length then [.ambiguous a.keys] else []

/-- What is wrong with the value of a key. Where there is none, only mandatory keys need one, and of
those a boolean may do without. -/
def valueErrors (a : KeyAttribute) (key : Text) (value : Text) : List KeyAttributeError :=
  if Text.isBlank value then
    if a.mandatory && a.kind != .flag then [.missingMandatory a.keys] else []
  else if a.kind.accepts value then []
  else [.invalidValue key a.kind]

/-- What is wrong with a store as far as one key is concerned. -/
def errors (s : Store) (a : KeyAttribute) : List KeyAttributeError :=
  ambiguity s a ++
    match s.firstDefined? a.keys with
    | none => if a.mandatory then [.missingMandatory a.keys] else []
    | some key => a.valueErrors key ((s.getText? key).getD [])

/-- Whether a key of the store is one of the names (`same_key`). -/
def names (s : Store) (a : KeyAttribute) (key : Text) : Bool :=
  a.keys.any (s.policy.sameKey key)

end KeyAttribute

namespace Store

/-- Keys with a `$` or a `%` in front are never reported as unrecognized. -/
def isExempt (key : Text) : Bool := key.head?.any fun c => c = '$' || c = '%'

/-- Holds the store against the keys that a program expects (`validate_key_attributes`). -/
def validate (s : Store) (attributes : List KeyAttribute) : ValidationReport where
  errors := attributes.flatMap (KeyAttribute.errors s)
  unrecognized := s.keys.filter fun key => !isExempt key && !attributes.any (·.names s key)

end Store

end PropertyConfig
