import PropertyConfig.Text.Blank
import PropertyConfig.Text.Letters

/-!
# Conditions

A condition `key`, `key = value` or `key != value` asks for the current value of a key. `read`
(`parse_condition`) takes it from the text after `%if`, `holds` (`evaluate`) answers it.
-/

namespace PropertyConfig

/-- Without a value to compare with, the key only has to be defined. -/
structure Condition where
  key : Text
  value : Option Text
  negate : Bool
deriving DecidableEq, Repr

inductive ConditionError
  | missingKey
  | invalidOperator (operator : Text)
deriving DecidableEq, Repr

def ConditionError.message : ConditionError → String
  | .missingKey => "missing conditional after '%if'"
  | .invalidOperator op => "invalid condition operator: " ++ String.ofList op

namespace Condition

/-- The characters that operators consist of. -/
def isOperatorChar (c : Char) : Bool := c = '!' || c = '='

/-- How a condition compares: not at all, or for equality, or for inequality. -/
inductive Comparison
  | defined
  | equal
  | unequal
deriving DecidableEq, Repr

def Comparison.read? : Text → Option Comparison
  | [] => some .defined
  | ['='] | ['=', '='] => some .equal
  | ['!', '='] => some .unequal
  | _ => none

/-- The value compared with: an empty one counts only behind an operator. -/
def comparedValue (comparison : Comparison) (rest : Text) : Option Text :=
  if rest = [] ∧ comparison = .defined then none else some rest

/-- Reads `key [operator [value]]`, with any blanks around the three parts. -/
def read (text : Text) : Except ConditionError Condition :=
  let d := Text.trim text
  let key := Text.trim (d.takeWhile (!isOperatorChar ·))
  let tail := d.dropWhile (!isOperatorChar ·)
  if key = [] then .error .missingKey
  else
    match Comparison.read? (tail.takeWhile isOperatorChar) with
    | none => .error (.invalidOperator (tail.takeWhile isOperatorChar))
    | some comparison =>
      let rest := Text.trim (tail.dropWhile isOperatorChar)
      .ok ⟨key, comparedValue comparison rest, comparison = .unequal⟩

/-- The comparison ignores the case of letters, and an undefined key compares as blank. -/
def holds (c : Condition) (actual : Option Text) : Bool :=
  let equal :=
    match c.value, actual with
    | some expected, some actual => Text.sameLetters expected actual
    | some expected, none => Text.isBlank expected
    | none, actual => actual.isSome
  equal != c.negate

end Condition

end PropertyConfig
