import PropertyConfig.Line

/-!
# Property stores

A store keeps keys with their values in the order in which the keys came in, the name of the store
first. Values are kept as they are written, references included. The policy of a store says which
keys count as the same one and which values it keeps.
-/

namespace PropertyConfig

/-- What a store goes by. -/
structure Policy where
  /-- Keys that differ in the case of letters only are the same key. -/
  ignoreCase : Bool := false
  /-- Setting a key to a blank value keeps the key; otherwise it removes it. -/
  allowBlank : Bool := true
  /-- Messages of `%log` lines are shown while resources are loaded into the store. -/
  logMessages : Bool := true
  /-- The characters between a key and its value where properties are written in a row. -/
  separators : List Char := ['=', ':']
  /-- The character between properties that are written in a row. -/
  divider : Char := ' '
deriving DecidableEq, Repr

namespace Policy

/-- Whether two keys are the same one. -/
def sameKey (p : Policy) (a b : Text) : Bool :=
  if p.ignoreCase then Text.sameLetters a b else a == b

/-- Whether a key starts with `lead`. -/
def keyStartsWith (p : Policy) (lead key : Text) : Bool :=
  if p.ignoreCase then Text.startsWithLetters lead key else lead.isPrefixOf key

/-- No separators at all stands for the usual ones. -/
def withSeparators (p : Policy) (separators : List Char) : Policy :=
  { p with separators := if separators = [] then ['=', ':'] else separators }

/-- The separator that is written between a key and its value. -/
def separator (p : Policy) : Char := p.separators.headD '='

/-- Where a key stands among `keys` (`index_of`): at the key spelled alike if there is one,
otherwise at the first one that is the same key. -/
def position? (p : Policy) (keys : List Text) (key : Text) : Option Nat :=
  (keys.findIdx? (· == key)).or
    (if p.ignoreCase then keys.findIdx? (Text.sameLetters · key) else none)

end Policy

abbrev Entry := Text × Text

/-- A store of properties (`PropertyStore`). -/
structure Store where
  policy : Policy := {}
  entries : List Entry := []
deriving DecidableEq, Repr

namespace Store

def keys (s : Store) : List Text := s.entries.map Prod.fst

/-- The entry that a key stands for. -/
def entry? (s : Store) (key : Text) : Option Entry :=
  (s.policy.position? s.keys key).bind (s.entries[·]?)

/-- The value of a key as it is written (`get`). -/
def get? (s : Store) (key : Text) : Option Text := (s.entry? key).map Prod.snd

def contains (s : Store) (key : Text) : Bool := (s.policy.position? s.keys key).isSome

/-- The first of some keys that is defined (`first_defined`). -/
def firstDefined? (s : Store) (keys : List Text) : Option Text := keys.find? s.contains

/-- The keys that start with `lead` (`keys` with a prefix). -/
def keysFrom (s : Store) (lead : Text) : List Text := s.keys.filter (s.policy.keyStartsWith lead)

def name? (s : Store) : Option Text := s.get? nameKey

/-- An empty store that goes by the same policy (`empty_like`). -/
def emptied (s : Store) : Store := { s with entries := [] }

/-! ## Putting in and taking out -/

/-- The entries with the one at position `i` in front of the others. -/
def toFront (entries : List Entry) (i : Nat) : List Entry :=
  (entries[i]?).toList ++ entries.eraseIdx i

/-- Gives a key its value, the last part of `set`. A key that is there keeps its place and its
spelling, a new one comes last; only the name comes first. -/
def assign (s : Store) (key value : Text) : Store :=
  let entries :=
    match s.policy.position? s.keys key with
    | some i =>
      let entries := s.entries.modify i fun e => (e.1, value)
      if key = nameKey then toFront entries i else entries
    | none => if key = nameKey then (key, value) :: s.entries else s.entries ++ [(key, value)]
  { s with entries }

/-- Takes a key out. -/
def erase (s : Store) (key : Text) : Store :=
  match s.policy.position? s.keys key with
  | some i => { s with entries := s.entries.eraseIdx i }
  | none => s

end Store

end PropertyConfig
