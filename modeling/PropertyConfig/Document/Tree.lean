import PropertyConfig.Store.Read

/-!
# Documents

The properties of a store make a tree: keys with points in them are paths, and each value is the
most specific of boolean, integer, floating-point number and text that it can be. A table keeps its
keys sorted by code points. A value never takes the place of a table.
-/

namespace PropertyConfig

inductive Leaf
  | text (t : Text)
  | integer (i : Int)
  | real (x : Double)
  | flag (b : Bool)
deriving DecidableEq, Repr

inductive Tree
  | leaf (l : Leaf)
  | table (entries : List (Text × Tree))

abbrev Table := List (Text × Tree)

/-- An integer has digits only, and a minus in front of them at most (`looks_like_integer`). -/
def Leaf.integer? (t : Text) : Option Int :=
  let (sign, digits) := splitSign t
  if digits = [] ∨ !digits.all Char.isDigit ∨ sign = ['+'] then none
  else
    let size : Int := numeral 10 digits
    some (if sign = ['-'] then -size else size) |>.filter Width.bits64.contains

/-- A floating-point number has a point. -/
def Leaf.real? (t : Text) : Option Double :=
  if t.contains '.' then (Literal.read? t).map (Literal.round binary64) else none

/-- The most specific value that a text can be (`coerce_value`). -/
def Leaf.ofText (t : Text) : Leaf :=
  if Text.sameLetters t ['t', 'r', 'u', 'e'] then .flag true
  else if Text.sameLetters t ['f', 'a', 'l', 's', 'e'] then .flag false
  else
    match Leaf.integer? t, Leaf.real? t with
    | some i, _ => .integer i
    | none, some x => .real x
    | none, none => .text t

namespace Table

/-- Puts at a key what `f` makes of the tree that is there. -/
def alter (key : Text) (f : Option Tree → Tree) : Table → Table
  | [] => [(key, f none)]
  | (k, t) :: rest =>
    if key = k then (k, f (some t)) :: rest
    else if key < k then (key, f none) :: (k, t) :: rest
    else (k, t) :: alter key f rest

/-- The entries of the table at a place; what is no table has none. -/
def entriesOf : Option Tree → Table
  | some (.table entries) => entries
  | _ => []

/-- A value at a place, unless a table is there. -/
def leafOr (l : Leaf) : Option Tree → Tree
  | some (.table entries) => .table entries
  | _ => .leaf l

/-- Puts a value at a path, making tables on the way to it (`merge_at_path`). -/
def insert (l : Leaf) : (path : List Text) → Table → Table
  | [], t => t
  | [key], t => alter key (leafOr l) t
  | key :: rest, t => alter key (fun old => .table (insert l rest (entriesOf old))) t

/-- The table of some values with their paths, put in one after the other. -/
def ofPaths (values : List (List Text × Leaf)) : Table :=
  values.foldl (fun t (path, l) => insert l path t) []

end Table

namespace Store

/-- The path that a key stands for. -/
def pathOf (key : Text) : List Text := Text.splitAt '.' key

/-- Keys with a `%` in front have no place in the document. -/
def documentKeys (s : Store) : List Text := s.keys.filter fun key => key.head? != some '%'

/-- The document of a store, which `deserialize` decodes. -/
def document (s : Store) : Table :=
  Table.ofPaths (s.documentKeys.filterMap fun key =>
    (s.getText? key).map fun value => (pathOf key, Leaf.ofText value))

end Store

end PropertyConfig
