import PropertyConfig.Text.Basic
import PropertyConfig.Text.Lowercase.Table

/-!
# Lower case

The lower-case form of a text in any script. One letter has two forms: a sigma at the end of a word
is written `ς`, any other one `σ`. A word ends where no letter with a case follows, and it has to
have one before its last letter.
-/

namespace PropertyConfig.Text.Lowercase

def isCased (c : Char) : Bool := inRuns casedRuns c

/-- Apostrophes, marks and the like belong to the word around them. -/
def isPassedOver (c : Char) : Bool := inRuns passedOverRuns c

def Run.contains (r : Run) (c : Char) : Bool :=
  r.first ≤ c.toNat && c.toNat ≤ r.last && (c.toNat - r.first) % r.step == 0

/-- The lower-case form of a character, whatever is around it. -/
def char (c : Char) : Text :=
  if c = 'İ' then ['i', '\u0307']
  else
    match runs.find? (·.contains c) with
    | none => [c]
    | some r => [Char.ofNat (c.toNat + r.shift).toNat]

/-- Whether a letter with a case comes first, apart from what is passed over. -/
def startsCased (t : Text) : Bool := (t.find? (!isPassedOver ·)).any isCased

/-- The lower-case form of what follows a text; `inWord` tells whether that text ends with a letter
that has a case, apart from what is passed over. -/
def convertAfter : (inWord : Bool) → Text → Text
  | _, [] => []
  | inWord, c :: t =>
    let lower :=
      if c = 'Σ' then (if inWord && !startsCased t then ['ς'] else ['σ']) else char c
    lower ++ convertAfter (if isPassedOver c then inWord else isCased c) t

/-- The lower-case form of a text. -/
def convert (t : Text) : Text := convertAfter false t

end PropertyConfig.Text.Lowercase
