import PropertyConfig.Text.Blank

/-!
# Attributes of keys

What a program expects of a key: the names that it goes by, whether it has to be there, and what its
values are. `KeyAttribute.read` takes them from a specification such as `p,port=i`.
-/

namespace PropertyConfig

/-- What the values of a key have to be. -/
inductive ValueKind
  | text
  | integer
  | real
  | flag
deriving DecidableEq, Repr

def ValueKind.name : ValueKind → String
  | .text => "string"
  | .integer => "integer"
  | .real => "float"
  | .flag => "boolean"

structure KeyAttribute where
  keys : List Text
  mandatory : Bool
  kind : ValueKind
deriving DecidableEq, Repr

/-- What can be wrong with a specification, or with a store that it is held against. -/
inductive KeyAttributeError
  | invalidSpec (spec : Text)
  | ambiguous (keys : List Text)
  | missingMandatory (keys : List Text)
  | invalidValue (key : Text) (kind : ValueKind)
deriving DecidableEq, Repr

namespace KeyAttributeError

/-- The names of a key as they are shown. -/
def joined (keys : List Text) : String := String.ofList (Text.join [','] keys)

def message : KeyAttributeError → String
  | .invalidSpec spec => "invalid key attribute specification: " ++ String.ofList spec
  | .ambiguous keys => "multiple values found for keys: " ++ joined keys
  | .missingMandatory keys => "mandatory key not specified: " ++ joined keys
  | .invalidValue key kind =>
    "invalid value for key (" ++ kind.name ++ "): " ++ String.ofList key

end KeyAttributeError

namespace KeyAttribute

/-- The items of a list with commas, without the blanks around them; empty ones do not count. -/
def commaItems (t : Text) : List Text :=
  ((Text.splitAt ',' t).map Text.trim).filter (· != [])

/-- The attribute with one more flag of its specification. -/
def withFlag? (a : KeyAttribute) : Text → Option KeyAttribute
  | ['m'] => some { a with mandatory := true }
  | ['o'] => some { a with mandatory := false }
  | ['s'] => some { a with kind := .text }
  | ['i'] => some { a with kind := .integer }
  | ['f'] | ['d'] => some { a with kind := .real }
  | ['b'] => some { a with kind := .flag }
  | _ => none

/-- The names, and behind the first `=` or `:` the flags. A key is mandatory with `=`. -/
def splitSpec (spec : Text) : Text × Bool × Text :=
  match Text.cutAt? (fun c => c = '=' || c = ':') spec with
  | some (keys, c, flags) => (keys, c = '=', flags)
  | none => (spec, false, [])

/-- Reads a specification (`from_str`). -/
def read (spec : Text) : Except KeyAttributeError KeyAttribute :=
  let (keys, mandatory, flags) := splitSpec spec
  let start : KeyAttribute := ⟨commaItems keys, mandatory, .text⟩
  if start.keys = [] then .error (.invalidSpec spec)
  else
    match (commaItems flags).foldlM withFlag? start with
    | none => .error (.invalidSpec spec)
    | some a => .ok a

end KeyAttribute

end PropertyConfig
