import PropertyConfig.Store.Basic

/-!
# Edits

All that happens to a store happens by edits, one after the other: a key is set to a value, or it is
removed. Setting a key can come down to removing one, or to nothing, as `Policy.action` says. Each
edit that changes the store makes one `Change`, from which an observer learns of it.
-/

namespace PropertyConfig

inductive Edit
  | set (key value : Text)
  | remove (key : Text)
deriving DecidableEq, Repr

/-- What an edit comes down to. -/
inductive Action
  | nothing
  | assign (key value : Text)
  | erase (key : Text)
deriving DecidableEq, Repr

/-- What became of a key: its value before, and the one after (`PropertyChange`). -/
structure Change where
  key : Text
  old : Option Text
  new : Option Text
deriving DecidableEq, Repr

/-- A character that, at the front of a key that is set, has the rest of the key removed
(`REMOVAL_MARKERS`). -/
def isRemovalMarker (c : Char) : Bool := c = '!' || c = '|' || c = '^'

/-- What an edit comes down to, the branches of `set` and `remove`. The empty key is never set; a
removal marker in front of a key removes the rest of it; a blank value removes the key where blank
values are not allowed. -/
def Policy.action (p : Policy) : Edit → Action
  | .remove key => .erase key
  | .set [] _ => .nothing
  | .set (c :: rest) value =>
    if isRemovalMarker c then .erase rest
    else if !p.allowBlank && Text.isBlank value then .erase (c :: rest)
    else .assign (c :: rest) value

namespace Store

def apply (s : Store) (e : Edit) : Store :=
  match s.policy.action e with
  | .nothing => s
  | .assign key value => s.assign key value
  | .erase key => s.erase key

/-- What an edit changes. A removed key is reported as it was spelled in the store. -/
def change? (s : Store) (e : Edit) : Option Change :=
  match s.policy.action e with
  | .nothing => none
  | .assign key value => some ⟨key, s.get? key, some value⟩
  | .erase key => (s.entry? key).map fun (spelled, old) => ⟨spelled, some old, none⟩

/-- The store after some edits. -/
def run (s : Store) (edits : List Edit) : Store := edits.foldl apply s

/-- What some edits change, in order. -/
def changes (s : Store) : List Edit → List Change
  | [] => []
  | e :: rest => (s.change? e).toList ++ (s.apply e).changes rest

theorem run_append (s : Store) (a b : List Edit) : s.run (a ++ b) = (s.run a).run b :=
  List.foldl_append

def set (s : Store) (key value : Text) : Store := s.apply (.set key value)

def remove (s : Store) (key : Text) : Store := s.apply (.remove key)

/-- The store that has a policy and in which some entries are set. -/
def ofEntries (p : Policy) (entries : List Entry) : Store :=
  run { policy := p } (entries.map fun (key, value) => .set key value)

/-! ## Edits of a whole store -/

end Store

/-- What came of merging another store into one: the store, and the name of the other one. -/
structure Merged where
  store : Store
  name : Option Text
deriving DecidableEq

namespace Store

/-- The edits that remove every key (`clear`). -/
def clearing (s : Store) : List Edit := s.keys.map .remove

/-- The edits that copy a store into another one. Its name is copied only if `withName` is set. -/
def copying (s : Store) (withName : Bool) : List Edit :=
  (s.entries.filter fun e => withName || e.1 != nameKey).map fun (key, value) => .set key value

/-- The name that a store passes on: that of the key as it is spelled. -/
def ownName? (s : Store) : Option Text := s.entries.lookup nameKey

/-- Puts the entries of another store in (`merge`); the other keys keep their values. The name of
the other store is told also where it is not put in. -/
def merge (s other : Store) (withName : Bool) : Merged :=
  ⟨s.run (other.copying withName), other.ownName?⟩

/-- A store of the same policy with those entries whose keys start with `lead`. -/
def subset (s : Store) (lead : Text) : Store :=
  ofEntries s.policy (s.entries.filter fun e => s.policy.keyStartsWith lead e.1)

end Store

end PropertyConfig
