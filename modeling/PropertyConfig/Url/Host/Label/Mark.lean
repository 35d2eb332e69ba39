import PropertyConfig.Text.Lowercase.Basic
import PropertyConfig.Url.Host.Label.Table

/-!
# Marks in names
-/

namespace PropertyConfig.Url.Label

/-- Whether a character combines with the one before. -/
def isMark (c : Char) : Bool := Text.inRuns markRuns c

/-- Marks that take no space of their own. Like all that does not, they are passed over where the
case of letters is asked for. -/
def isNonspacing (c : Char) : Bool := isMark c && Text.Lowercase.isPassedOver c

end PropertyConfig.Url.Label
