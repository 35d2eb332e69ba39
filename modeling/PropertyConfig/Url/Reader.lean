import PropertyConfig.Text.Letters
import PropertyConfig.Url.Basic
import PropertyConfig.Url.Error

/-!
# Readers of URLs

How a text becomes a URL is not for this library to say: a `UrlReader` reads texts, by themselves or
relative to a base. What may be relied on is `UrlReader.IsLawful`: that the scheme of a URL is the
one that its text starts with, and which bases have a part in reading the URL of a file.
-/

namespace PropertyConfig

/-- Reads a text as a URL, relative to a base if there is one. -/
abbrev UrlReader := Option Url → Text → Except UrlError Url

namespace Url

/-! ## The scheme of a text -/

def isSchemeChar (c : Char) : Bool := c.isAlphanum || c = '+' || c = '-' || c = '.'

/-- Divides a text at the colon behind its scheme (`split_scheme`). -/
def splitScheme? (t : Text) : Option (Text × Text) :=
  match Text.cutAt? (· = ':') t with
  | some (c :: rest, _, after) =>
    if c.isAlpha && rest.all isSchemeChar then some (c :: rest, after) else none
  | _ => none

/-- Characters that do not count at the ends of a text. -/
def isOuter (c : Char) : Bool := c.toNat ≤ 0x20

/-- Characters that do not count, wherever they stand. -/
def isUncounted (c : Char) : Bool := c = '\t' || c = '\n' || c = '\r'

/-- The text without blanks and controls at its ends. -/
def withoutEnds (t : Text) : Text := ((t.dropWhile isOuter).reverse.dropWhile isOuter).reverse

/-- What counts of a text. -/
def counted (t : Text) : Text := (withoutEnds t).filter (!isUncounted ·)

/-- The scheme that a text starts with, in lower case, as far as the text counts. -/
def schemeOf? (t : Text) : Option Text :=
  (splitScheme? (counted t)).map fun parts => Text.toLower parts.1

end Url

/-- What readers of URLs promise. -/
structure UrlReader.IsLawful (read : UrlReader) : Prop where
  /-- A URL has the scheme that its text starts with; where the text has none, it has that of the
  base, and without a base there is no URL. -/
  scheme_eq {base : Option Url} {t : Text} {u : Url} (h : read base t = .ok u) :
    (Url.schemeOf? t).or (base.map (·.scheme)) = some u.scheme
  /-- A base that is no file has no part in reading a text with the scheme of files. -/
  file_base {base : Url} {t : Text} (hbase : base.scheme ≠ Url.fileScheme)
    (ht : Url.schemeOf? t = some Url.fileScheme) : read (some base) t = read none t

end PropertyConfig
