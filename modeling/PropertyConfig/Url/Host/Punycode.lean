import PropertyConfig.Text.Basic

/-!
# Punycode

A name in any script is written with letters, digits and hyphens: its ASCII characters come first,
with a hyphen behind them, and then a number for each other one. The others are put in by their code
points. A number tells how many steps lie before the next insertion: each step goes to the next
place of the text, and behind its last place to the next code point.

The digits of a number start with the least one, and a number ends with its first digit below a
threshold (`number?`), which is adapted to the numbers before it (`adapt`).
-/

namespace PropertyConfig.Url.Punycode

/-- The value of a digit: letters stand for 0 to 25, decimal digits for 26 to 35. -/
def digit? (c : Char) : Option Nat :=
  if c.isLower then some (c.toNat - 'a'.toNat)
  else if c.isUpper then some (c.toNat - 'A'.toNat)
  else if c.isDigit then some (26 + (c.toNat - '0'.toNat))
  else none

/-- A digit below this ends its number; `place` is 36 for the first digit and grows by 36. -/
def threshold (bias place : Nat) : Nat := min (max 1 (place - bias)) 26

/-- The number at the front of some digits, and the digits behind it. -/
def number? (bias place weight : Nat) : List Nat → Option (Nat × List Nat)
  | [] => none
  | d :: digits =>
    let limit := threshold bias place
    if d < limit then some (d * weight, digits)
    else
      (number? bias (place + 36) (weight * (36 - limit)) digits).map fun (n, rest) =>
        (d * weight + n, rest)

theorem length_lt_of_number? {bias place weight n : Nat} {digits rest : List Nat}
    (h : number? bias place weight digits = some (n, rest)) : rest.length < digits.length := by
  induction digits generalizing place weight n with
  | nil => simp [number?] at h
  | cons d digits ih =>
    rw [number?] at h
    split at h
    · simp only [Option.some.injEq, Prod.mk.injEq] at h
      simp [← h.2]
    · obtain ⟨⟨m, r⟩, hr, he⟩ := Option.map_eq_some_iff.mp h
      obtain ⟨-, rfl⟩ := Prod.mk.inj he
      exact Nat.lt_succ_of_lt (ih hr)

/-- The bias that suits numbers of about this size. -/
def biasFor (n : Nat) : Nat :=
  if n ≤ 455 then 36 * n / (n + 38) else 36 + biasFor (n / 35)

/-- The bias behind a number of steps to an insertion into a text, which then has this length. -/
def adapt (steps length : Nat) (isFirst : Bool) : Nat :=
  let steps := if isFirst then steps / 700 else steps / 2
  biasFor (steps + steps / length)

/-- A text on the way to a name, and from where the steps to the next insertion are counted. -/
structure Draft where
  text : Text
  code : Nat := 0x80
  place : Nat := 0
  bias : Nat := 72
deriving DecidableEq, Repr

/-- Goes on by some steps and puts in the character found there. -/
def Draft.insert? (d : Draft) (steps : Nat) : Option Draft :=
  let length := d.text.length + 1
  let code := d.code + (d.place + steps) / length
  let place := (d.place + steps) % length
  if code.isValidChar then
    some { code, text := d.text.insertIdx place (Char.ofNat code), place := place + 1
           bias := adapt steps length (d.place == 0) }
  else none

/-- Puts in a character for each number that the digits denote. -/
def Draft.insertAll? (d : Draft) (digits : List Nat) : Option Text :=
  if digits = [] then some d.text
  else
    match _h : number? d.bias 36 1 digits with
    | none => none
    | some (steps, rest) => (d.insert? steps).bind (insertAll? · rest)
termination_by digits.length
decreasing_by exact length_lt_of_number? _h

/-- The name that a text is written for. -/
def decode? (t : Text) : Option Text :=
  let digits := (t.reverse.takeWhile (· != '-')).reverse
  let ascii := t.take (t.length - digits.length - 1)
  if ascii = [] ∧ digits ≠ t then none
  else (digits.mapM digit?).bind (Draft.insertAll? { text := ascii })

end PropertyConfig.Url.Punycode
