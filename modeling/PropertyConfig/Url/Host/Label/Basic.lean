import PropertyConfig.Text.Quoted.Basic
import PropertyConfig.Url.Host.Label.Direction
import PropertyConfig.Url.Host.Label.Joining
import PropertyConfig.Url.Host.Punycode

/-!
# Labels

A domain name has labels with points between them. A label that starts with `xn--` is written for a
name in another script, and it has to be the only way to write it.
-/

namespace PropertyConfig.Url.Label

/-- Whether another character stands for this one in names. -/
def isForeign (c : Char) : Bool :=
  foreignRuns.any fun (first, last, step) =>
    first ≤ c.toNat && c.toNat ≤ last && (c.toNat - first) % step == 0

/-- Names consist of characters that show, of marks and of joiners. -/
def isNameChar (c : Char) : Bool :=
  !isForeign c && (isMark c || isJoiner c || !Text.Quoted.isHidden c)

/-- What a label starts with that is written for a name in another script. -/
def codedMark : Text := ['x', 'n', '-', '-']

/-- Whether a text is a name for which there is a label, and not a label itself. -/
def isName (t : Text) : Bool :=
  t.length ≤ 1000 && t.all isNameChar && !t.all (·.toNat < 0x80) && !t.head?.any isMark &&
    isComposed t && areJoinersPlaced [] t && !codedMark.isPrefixOf t

/-- The name that a label, in lower case, is written for. -/
def name? (label : Text) : Option Text :=
  match Text.after? codedMark label with
  | none => some label
  | some t => if t.length ≤ 2000 then (Punycode.decode? t).filter isName else none

/-- Whether the labels of a domain are in order. If one of their names is written leftward, then
each of them has to keep to one direction. -/
def areValid (labels : List Text) : Bool :=
  match labels.mapM name? with
  | none => false
  | some names => !names.any isLeftward || names.all isDirected

end PropertyConfig.Url.Label
