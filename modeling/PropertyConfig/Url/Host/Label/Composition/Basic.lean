import PropertyConfig.Url.Host.Label.Composition.Table
import PropertyConfig.Url.Host.Label.Mark

/-!
# The composed form of names

A letter with a mark is one character or two, and marks can come in different orders. A name is
written with as few characters as possible and with its marks in order: it is decomposed (`expand`),
its marks are sorted by their classes (`arrange`), and it is composed again (`compose`).

Korean syllables are composed of two or three letters by their places in the code.
-/

namespace PropertyConfig.Url.Label

/-- The class of a mark; 0 for what is no mark, or one that keeps its place. -/
def combiningClass (c : Char) : Nat :=
  (classRuns.find? fun (first, last, _) => first ≤ c.toNat && c.toNat ≤ last).elim 0 (·.2.2)

/-! ## Korean syllables -/

namespace Syllable

def first : Nat := 0xAC00
def leadingLetter : Nat := 0x1100
def vowel : Nat := 0x1161
/-- The place before the one of the first closing letter. -/
def closingLetter : Nat := 0x11A7

/-- A syllable without its last letter, and this letter. -/
def parts? (c : Char) : Option (Char × Char) :=
  let n := c.toNat - first
  if c.toNat < first ∨ 19 * 21 * 28 ≤ n then none
  else if n % 28 = 0 then
    some (Char.ofNat (leadingLetter + n / (21 * 28)), Char.ofNat (vowel + n / 28 % 21))
  else some (Char.ofNat (first + n / 28 * 28), Char.ofNat (closingLetter + n % 28))

/-- The syllable of a leading letter and a vowel, or of a syllable and a closing letter. -/
def compose? (c d : Char) : Option Char :=
  if leadingLetter ≤ c.toNat ∧ c.toNat < leadingLetter + 19 ∧ vowel ≤ d.toNat ∧
      d.toNat < vowel + 21 then
    some (Char.ofNat (first + ((c.toNat - leadingLetter) * 21 + (d.toNat - vowel)) * 28))
  else if first ≤ c.toNat ∧ c.toNat < first + 19 * 21 * 28 ∧ (c.toNat - first) % 28 = 0 ∧
      closingLetter < d.toNat ∧ d.toNat < closingLetter + 28 then
    some (Char.ofNat (c.toNat + (d.toNat - closingLetter)))
  else none

end Syllable

/-! ## Decomposing and composing -/

/-- The two characters that a character is composed of. -/
def parts? (c : Char) : Option (Char × Char) :=
  match Syllable.parts? c with
  | some p => some p
  | none =>
    composites.findSome? fun (mark, pairs) =>
      (pairs.find? (·.2 == c.toNat)).map fun p => (Char.ofNat p.1, Char.ofNat mark)

/-- The character that is composed of two. -/
def compose? (c d : Char) : Option Char :=
  match Syllable.compose? c d with
  | some composed => some composed
  | none => ((composites.lookup d.toNat).bind (·.lookup c.toNat)).map Char.ofNat

/-- The text with each character divided into its two parts. -/
def expandOnce (t : Text) : Text :=
  t.flatMap fun c => (parts? c).elim [c] fun (base, mark) => [base, mark]

/-- The text in its smallest parts. No character of a name is composed of more than three. -/
def expand (t : Text) : Text := expandOnce (expandOnce t)

/-- Puts a character behind a text, given backwards, where its class allows. -/
def place (c : Char) : Text → Text
  | [] => [c]
  | d :: before =>
    if combiningClass c ≠ 0 ∧ combiningClass c < combiningClass d then d :: place c before
    else c :: d :: before

/-- The text with the marks behind each character in the order of their classes. -/
def arrange (t : Text) : Text := (t.foldl (fun before c => place c before) []).reverse

/-- Composes what can be composed from a character, the marks behind it that are not, and what
follows. A mark is composed with the character unless one of the same class is in between. -/
def composeFrom (c : Char) (marks : Text) : Text → Text
  | [] => c :: marks
  | d :: t =>
    let isNear := marks.getLast?.all fun mark => combiningClass mark < combiningClass d
    match if isNear then compose? c d else none with
    | some composed => composeFrom composed marks t
    | none =>
      if combiningClass d = 0 then c :: marks ++ composeFrom d [] t
      else composeFrom c (marks ++ [d]) t

def compose : Text → Text
  | [] => []
  | c :: t => composeFrom c [] t

/-- Whether a text is in its composed form. -/
def isComposed (t : Text) : Bool := compose (arrange (expand t)) == t

end PropertyConfig.Url.Label
