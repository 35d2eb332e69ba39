import PropertyConfig.Text.Basic

/-!
# Lines

A line ends with `\n`, or with `\r\n`; the last one may also end with the text. Nothing after the
last line end is no line.
-/

namespace PropertyConfig.Text

/-- The lines of a text without their ends. -/
def lines : Text → List Text
  | [] => []
  | '\n' :: t => [] :: lines t
  | '\r' :: '\n' :: t => [] :: lines t
  | c :: t =>
    match lines t with
    | [] => [[c]]
    | line :: rest => (c :: line) :: rest

end PropertyConfig.Text
