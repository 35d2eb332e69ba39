import PropertyConfig.Text.Basic

/-!
# Letters of either case

Comparing texts without regard to the case of the letters `A` to `Z`. All other characters, letters
outside this range included, differ from each other.
-/

namespace PropertyConfig.Text

/-- The text with `A` to `Z` in lower case. -/
def toLower (t : Text) : Text := t.map Char.toLower

/-- The text with `a` to `z` in upper case. -/
def toUpper (t : Text) : Text := t.map Char.toUpper

def sameLetters (a b : Text) : Bool := toLower a == toLower b

theorem sameLetters_iff {a b : Text} : sameLetters a b = true ↔ toLower a = toLower b := by
  simp [sameLetters]

/-- `text` starts with `lead`, up to the case of letters. -/
def startsWithLetters (lead text : Text) : Bool := (toLower lead).isPrefixOf (toLower text)

end PropertyConfig.Text
