import PropertyConfig.Expansion.Piece

/-!
# Expansion

Expanding a text replaces its references, pass after pass, until a pass changes nothing or six have
run. A pass never replaces a reference to a key that the reference itself came out of, so values
that refer to themselves do not grow.
-/

namespace PropertyConfig

/-- What expansion is done with. `lookup` sees all parts of a reference, `filter` changes every
value it finds, and references to `mainKey` stay as they are written. -/
structure Expander where
  lookup : Reference → Option Text
  delimiters : Delimiters := {}
  filter : Text → Text := id
  mainKey : Option Text := none

namespace Expander

/-- How many passes are made at most (`KEY_MAX_RECURSION`). -/
def maxPasses : Nat := 6

/-- What a piece becomes. A fallback is not filtered, and comes out of no further key. -/
def substitute (x : Expander) : Piece → List Glyph
  | .kept written | .held written _ => written
  | .reference _ r origin =>
    match x.lookup r with
    | some value => Glyph.ofText (r.key :: origin) (x.filter value)
    | none => Glyph.ofText origin r.fallback

/-- The text after one more pass (`expand_pass`). -/
def pass (x : Expander) (text : List Glyph) : List Glyph :=
  (pieces x.delimiters text).flatMap x.substitute

/-- The references that a pass looks up, from left to right. -/
def lookups (x : Expander) (text : List Glyph) : List Reference :=
  (pieces x.delimiters text).filterMap Piece.reference?

/-- Whether a pass leaves the text as it is. -/
def settled (x : Expander) (text : List Glyph) : Bool :=
  Glyph.chars (x.pass text) == Glyph.chars text

/-- The text after at most `n` passes. -/
def passes (x : Expander) : (n : Nat) → List Glyph → List Glyph
  | 0, text => text
  | n + 1, text => if x.settled text then text else passes x n (x.pass text)

/-- The references that `passes` looks up, in order. -/
def passesLookups (x : Expander) : (n : Nat) → List Glyph → List Reference
  | 0, _ => []
  | n + 1, text =>
    x.lookups text ++ if x.settled text then [] else passesLookups x n (x.pass text)

/-- The text to be expanded, before the first pass. -/
def start (x : Expander) (text : Text) : List Glyph := Glyph.ofText x.mainKey.toList text

/-- Without an opening and a closing delimiter there are no references. -/
def isActive (x : Expander) : Bool := x.delimiters.opening != [] && x.delimiters.closing != []

/-- The text with its references replaced. -/
def expand (x : Expander) (text : Text) : Text :=
  if x.isActive then Glyph.chars (x.passes maxPasses (x.start text)) else text

/-- The references that are looked up while the text is expanded, in order. -/
def expandLookups (x : Expander) (text : Text) : List Reference :=
  if x.isActive then x.passesLookups maxPasses (x.start text) else []

end Expander

end PropertyConfig
