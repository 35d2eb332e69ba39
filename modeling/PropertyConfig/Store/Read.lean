import PropertyConfig.Expansion.Expander
import PropertyConfig.Scalar.Kind
import PropertyConfig.Store.Basic

/-!
# Reading values

Values are read with their references expanded against the store. A key is never expanded within
its own value.
-/

namespace PropertyConfig

/-- Why a value that is required cannot be had. -/
inductive AccessError
  | missing (key : Text)
  | invalid (key value : Text) (kind : Kind)
deriving DecidableEq, Repr

def AccessError.message : AccessError → String
  | .missing key => "required property not defined: " ++ String.ofList key
  | .invalid key value kind =>
    "property '" ++ String.ofList key ++ "' has value '" ++ String.ofList value ++ "', expected " ++
      kind.expected

namespace Store

/-- Expansion of references to the keys of a store. -/
def expander (s : Store) (mainKey : Option Text) : Expander :=
  { lookup := fun r => s.get? r.key, mainKey }

def expand (s : Store) (t : Text) : Text := (s.expander none).expand t

/-- The value of a key with its references expanded (`get_string`). -/
def getText? (s : Store) (key : Text) : Option Text :=
  (s.get? key).map (s.expander (some key)).expand

/-- The value of a key as a value of some kind (`get_as`). -/
def getAs? (s : Store) (k : Kind) (strict : Bool) (key : Text) : Option k.Value :=
  (s.getText? key).bind (k.read? strict)

/-- The value of a key as one of some kind, or a value in its place (`get_int`, `get_double` and the
like). -/
def getD (s : Store) (k : Kind) (key : Text) (fallback : k.Value) : k.Value :=
  (s.getAs? k false key).getD fallback

/-- The value of a key, which has to be there and to be of the kind as a whole. -/
def require (s : Store) (k : Kind) (key : Text) : Except AccessError k.Value :=
  match s.getText? key with
  | none => .error (.missing key)
  | some value =>
    match k.read? true value with
    | none => .error (.invalid key value k)
    | some v => .ok v

theorem require_eq_ok_iff {s : Store} {k : Kind} {key : Text} {v : k.Value} :
    s.require k key = .ok v ↔
      ∃ value, s.getText? key = some value ∧ k.read? true value = some v := by
  rw [require]
  cases s.getText? key with
  | none => simp
  | some value => cases hread : k.read? true value <;> simp [hread]

/-- A key that is defined with a blank value counts as true (`get_bool`). -/
def getFlag (s : Store) (key : Text) (fallback : Bool) : Bool :=
  match s.getText? key with
  | none => fallback
  | some value => if Text.isBlank value then true else (Flag.read? false value).getD fallback

end Store

end PropertyConfig
