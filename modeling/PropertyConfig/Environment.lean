import PropertyConfig.Store.Edit
import PropertyConfig.Text.Lowercase.Basic

/-!
# Properties from the environment

Environment variables whose names start with a word of the program give properties: with the word
`APP` and the separator `__`, the variable `APP__DB__HOST` gives the property `db.host`.
-/

namespace PropertyConfig

/-- Which variables of the environment give properties (`EnvSource`). -/
structure EnvironmentSource where
  word : Text
  separator : Text
deriving DecidableEq, Repr

namespace EnvironmentSource

/-- A source; an empty separator stands for the usual one. -/
def of (word separator : Text) : EnvironmentSource :=
  ⟨word, if separator = [] then ['_', '_'] else separator⟩

/-- The key that a variable gives, if it gives one: the parts behind the word and the separator, in
lower case. -/
def key? (source : EnvironmentSource) (name : Text) : Option Text :=
  match Text.after? (source.word ++ source.separator) name with
  | none | some [] => none
  | some path =>
    some (Text.join ['.'] ((Text.splitOn source.separator path).map Text.Lowercase.convert))

def edits (source : EnvironmentSource) (vars : List (Text × Text)) : List Edit :=
  vars.filterMap fun (name, value) => (source.key? name).map (.set · value)

/-- The properties that the variables give, in their order (`load_from`). -/
def load (source : EnvironmentSource) (vars : List (Text × Text)) : Store :=
  Store.run {} (source.edits vars)

end EnvironmentSource

/-- The variables after one more was set. It stays in its place if it was there before. -/
def setVariable (vars : List (Text × Text)) (v : Text × Text) : List (Text × Text) :=
  match vars.findIdx? (·.1 == v.1) with
  | some i => vars.set i v
  | none => vars ++ [v]

/-- The environment in which some variables were set one after the other. -/
def environmentOf (settings : List (Text × Text)) : List (Text × Text) :=
  settings.foldl setVariable []

end PropertyConfig
