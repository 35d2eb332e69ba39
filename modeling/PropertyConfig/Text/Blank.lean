import PropertyConfig.Text.Basic

/-!
# Blank characters

The characters with the Unicode property `White_Space`, and trimming them from the ends of a text.
-/

namespace PropertyConfig.Text

/-- First and last code point of each run of blank characters. -/
def blankRuns : List (Nat × Nat) :=
  [(0x09, 0x0D), (0x20, 0x20), (0x85, 0x85), (0xA0, 0xA0), (0x1680, 0x1680), (0x2000, 0x200A),
   (0x2028, 0x2029), (0x202F, 0x202F), (0x205F, 0x205F), (0x3000, 0x3000)]

def isBlankChar (c : Char) : Bool := blankRuns.any fun r => r.1 ≤ c.toNat && c.toNat ≤ r.2

theorem isBlankChar_eq_false_of_between {c : Char} (hlow : 0x20 < c.toNat)
    (hhigh : c.toNat < 0x80) : isBlankChar c = false := by
  simp only [isBlankChar, blankRuns, List.any_cons, List.any_nil, Bool.or_false,
    Bool.or_eq_false_iff, Bool.and_eq_false_imp, decide_eq_true_eq, decide_eq_false_iff_not]
  omega

/-- All characters are blank; in particular the empty text is blank. -/
def isBlank (t : Text) : Bool := t.all isBlankChar

def trimStart (t : Text) : Text := t.dropWhile isBlankChar

def trimEnd (t : Text) : Text := (t.reverse.dropWhile isBlankChar).reverse

/-- The text without the blank characters at its two ends. -/
def trim (t : Text) : Text := trimEnd (trimStart t)

end PropertyConfig.Text
