import PropertyConfig.Text.Blank
import PropertyConfig.Text.Letters

/-!
# Booleans

Four words each stand for true (`BOOLEAN_TRUE`) and for false (`BOOLEAN_FALSE`), in letters of
either case. Read strictly a text has to be one of them, blanks at its ends aside; otherwise it only
has to start with one.
-/

namespace PropertyConfig.Flag

def trueWords : List Text := [['t', 'r', 'u', 'e'], ['y', 'e', 's'], ['o', 'n'], ['1']]

def falseWords : List Text := [['f', 'a', 'l', 's', 'e'], ['n', 'o'], ['o', 'f', 'f'], ['0']]

def isWord (strict : Bool) (t word : Text) : Bool := if strict then t == word else word.isPrefixOf t

def read? (strict : Bool) (t : Text) : Option Bool :=
  let word := Text.toLower (Text.trim t)
  if trueWords.any (isWord strict word) then some true
  else if falseWords.any (isWord strict word) then some false
  else none

end PropertyConfig.Flag
