import PropertyConfig.Text.Basic
import PropertyConfig.Text.Quoted.Table

/-!
# Quoted texts

A text between double quotes, with everything in it visible: quotes, backslashes and the usual
control characters by short escapes, other characters that do not show by their code points.
-/

namespace PropertyConfig.Text.Quoted

/-- Whether a character would not show by itself. -/
def isHidden (c : Char) : Bool := c.toNat < 0x20 || inRuns hiddenRuns c

def escapeChar (c : Char) : Text :=
  match c with
  | '\x00' => ['\\', '0']
  | '\t' => ['\\', 't']
  | '\r' => ['\\', 'r']
  | '\n' => ['\\', 'n']
  | '"' => ['\\', '"']
  | '\\' => ['\\', '\\']
  | c =>
    if isHidden c then ['\\', 'u', '\x7b'] ++ Nat.toDigits 16 c.toNat ++ ['\x7d'] else [c]

def quote (t : Text) : Text := '"' :: t.flatMap escapeChar ++ ['"']

end PropertyConfig.Text.Quoted
