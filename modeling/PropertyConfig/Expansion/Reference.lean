import PropertyConfig.Text.Blank

/-!
# References

A reference to a key stands between an opening and a closing delimiter and has up to three parts,
as in `${key:argument=fallback}`. `Reference.read` takes the parts from the text between the
delimiters, and `Delimiters.bodyLength?` finds where that text ends.
-/

namespace PropertyConfig

/-- The texts that delimit references and their parts. References have no argument where `argument`
is empty, and no fallback where `fallback` is. -/
structure Delimiters where
  opening : Text := ['$', '\x7b']
  closing : Text := ['\x7d']
  argument : Text := [':']
  fallback : Text := ['=']
deriving DecidableEq, Repr

/-- The fallback stands in for the value of an undefined key. -/
structure Reference where
  key : Text
  argument : Option Text
  fallback : Text
deriving DecidableEq, Repr

/-- Takes away the special meaning of a delimiter behind it (`KEY_START_ESC`). -/
def escapeChar : Char := '\\'

namespace Delimiters

/-- Divides a text at the first occurrence of a delimiter that is in use. -/
def cut? (mark text : Text) : Option (Text × Text) :=
  if mark = [] then none else Text.cut? mark text

/-- How many characters stand before the closing delimiter that belongs to an opening one just
before the text. Within them, `depth` counts the opening delimiters that are still unmatched, an
escape hides the character behind it, and the next `skip` characters are already accounted for. -/
def bodyLengthFrom? (d : Delimiters) : (skip depth : Nat) → Text → Option Nat
  | _, _, [] => none
  | skip + 1, depth, _ :: t => (bodyLengthFrom? d skip depth t).map (· + 1)
  | 0, depth, c :: t =>
    if c = escapeChar then (bodyLengthFrom? d 1 depth t).map (· + 1)
    else if d.opening.isPrefixOf (c :: t) then
      (bodyLengthFrom? d (d.opening.length - 1) (depth + 1) t).map (· + 1)
    else if d.closing.isPrefixOf (c :: t) then
      match depth with
      | 0 => some 0
      | depth + 1 => (bodyLengthFrom? d (d.closing.length - 1) depth t).map (· + 1)
    else (bodyLengthFrom? d 0 depth t).map (· + 1)

/-- The length of a reference's text, given what follows its opening delimiter
(`find_end_delimiter`). -/
def bodyLength? (d : Delimiters) (t : Text) : Option Nat := d.bodyLengthFrom? 0 0 t

end Delimiters

/-- Reads the parts of a reference (`parse_reference`). Blanks around the key, and before the
fallback's delimiter, do not count; the fallback keeps its own. -/
def Reference.read (d : Delimiters) (body : Text) : Reference :=
  let whole := Text.trim body
  let (front, fallback) :=
    match Delimiters.cut? d.fallback whole with
    | some (front, fallback) => (Text.trim front, fallback)
    | none => (whole, [])
  match Delimiters.cut? d.argument front with
  | some (key, argument) => ⟨Text.trim key, some argument, fallback⟩
  | none => ⟨front, none, fallback⟩

end PropertyConfig
