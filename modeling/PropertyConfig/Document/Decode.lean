import PropertyConfig.Document.Tree
import PropertyConfig.Number.Shortest
import PropertyConfig.Text.Quoted.Basic

/-!
# Decoding documents

A program takes its settings out of a document as values of types of its own. A decoder reads one
such type from a tree, or says what is wrong and at which path.
-/

namespace PropertyConfig

/-- What stands in a document, as messages call it. -/
inductive Found
  | leaf (l : Leaf)
  | map

def Found.text : Found → Text
  | .leaf (.flag b) => "boolean `".toList ++ (if b then "true" else "false").toList ++ "`".toList
  | .leaf (.integer i) => "integer `".toList ++ decimalText i ++ "`".toList
  | .leaf (.real x) => "floating point `".toList ++ x.text ++ "`".toList
  | .leaf (.text t) => "string ".toList ++ Text.Quoted.quote t
  | .map => "map".toList

inductive DecodeFault
  | missingField (field : Text)
  | invalidType (found : Found) (wanted : String)
  /-- The type is right, but the value is out of range. -/
  | invalidValue (found : Found) (wanted : String)

def DecodeFault.message : DecodeFault → String
  | .missingField field => "missing field `" ++ String.ofList field ++ "`"
  | .invalidType found wanted =>
    "invalid type: " ++ String.ofList found.text ++ ", expected " ++ wanted
  | .invalidValue found wanted =>
    "invalid value: " ++ String.ofList found.text ++ ", expected " ++ wanted

/-- A fault and the path to where it is. -/
structure DecodeError where
  fault : DecodeFault
  path : List Text

/-- The fault on a line, and below it the path, if there is one. -/
def DecodeError.message (e : DecodeError) : String :=
  e.fault.message ++ "\n" ++
    if e.path = [] then "" else "in `" ++ String.ofList (Text.join ['.'] e.path) ++ "`\n"

/-- Reads a value of a type from a tree. -/
abbrev Decoder (α : Type) := Tree → Except DecodeError α

namespace Decoder

def found : Tree → Found
  | .leaf l => .leaf l
  | .table _ => .map

def mismatch {α : Type} (t : Tree) (wanted : String) : Except DecodeError α :=
  .error ⟨.invalidType (found t) wanted, []⟩

def text : Decoder Text
  | .leaf (.text t) => .ok t
  | t => mismatch t "a string"

def flag : Decoder Bool
  | .leaf (.flag b) => .ok b
  | t => mismatch t "a boolean"

/-- A natural number of 16 bits. -/
def word16 : Decoder UInt16
  | .leaf (.integer i) =>
    if 0 ≤ i ∧ i < 65536 then .ok i.toNat.toUInt16
    else .error ⟨.invalidValue (.leaf (.integer i)) "u16", []⟩
  | t => mismatch t "u16"

/-- A floating-point number; integers count as such. -/
def real : Decoder Double
  | .leaf (.real x) => .ok x
  | .leaf (.integer i) => .ok (Binary.ofInt binary64 i)
  | t => mismatch t "f64"

/-- What a decoder makes of the tree at a key. -/
def under {α : Type} (key : Text) (d : Decoder α) : Decoder α := fun t =>
  match d t with
  | .error e => .error { e with path := key :: e.path }
  | .ok a => .ok a

/-- What the fields of a record have to be, whatever is made of them. -/
abbrev Checks := List (Text × Decoder Unit)

def check {α : Type} (name : Text) (d : Decoder α) : Text × Decoder Unit :=
  (name, fun t => (d t).map fun _ => ())

/-- Checks the fields in the order in which the table has them. Other keys do not matter. -/
def checkAll (checks : Checks) : Table → Except DecodeError Unit
  | [] => .ok ()
  | (key, t) :: rest =>
    match checks.lookup key with
    | none => checkAll checks rest
    | some d =>
      match under key d t with
      | .error e => .error e
      | .ok () => checkAll checks rest

/-- A field of a record, which has to be there. -/
def field {α : Type} (entries : Table) (name : Text) (d : Decoder α) : Except DecodeError α :=
  match entries.lookup name with
  | none => .error ⟨.missingField name, []⟩
  | some t => under name d t

/-- A record. All fields that are there are checked before one that is not there is missed. -/
def record {α : Type} (wanted : String) (checks : Checks) (build : Table → Except DecodeError α) :
    Decoder α
  | .table entries =>
    match checkAll checks entries with
    | .error e => .error e
    | .ok () => build entries
  | t => mismatch t wanted

end Decoder

end PropertyConfig
