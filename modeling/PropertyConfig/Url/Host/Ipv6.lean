import PropertyConfig.Number.Digits

/-!
# IPv6 addresses in hosts

An address has eight pieces of 16 bits, in hexadecimal and with colons between them. Once, two
colons may stand for one or more pieces that are zero, and the last two pieces may be written as an
IPv4 address.
-/

namespace PropertyConfig.Url.Ipv6

def piece? (t : Text) : Option Nat :=
  if t = [] ∨ 4 < t.length ∨ !t.all isHexDigit then none else some (numeral 16 t)

/-- A byte in decimal, without leading zeros. -/
def byte? (t : Text) : Option Nat :=
  let leadingZero := 1 < t.length ∧ t.head? = some '0'
  if t = [] ∨ !t.all Char.isDigit ∨ leadingZero ∨ 255 < numeral 10 t then none
  else some (numeral 10 t)

/-- Two pieces that are written as an IPv4 address. -/
def pieces4? (t : Text) : Option (List Nat) :=
  match (Text.splitAt '.' t).mapM byte? with
  | some [a, b, c, d] => some [256 * a + b, 256 * c + d]
  | _ => none

/-- Pieces with single colons between them. Only the last one may be two pieces, and only where
`mixed` is set. -/
def pieces? (mixed : Bool) : List Text → Option (List Nat)
  | [] => some []
  | [t] => if mixed && t.contains '.' then pieces4? t else (piece? t).map ([·])
  | t :: rest => (piece? t).bind fun p => (pieces? mixed rest).map (p :: ·)

/-- The pieces of one side of a double colon, where there may be none. -/
def side? (mixed : Bool) (t : Text) : Option (List Nat) :=
  if t = [] then some [] else pieces? mixed (Text.splitAt ':' t)

/-- Reads an address. -/
def read? (t : Text) : Option (List Nat) :=
  match Text.cut? [':', ':'] t with
  | none => (pieces? true (Text.splitAt ':' t)).filter (·.length == 8)
  | some (left, right) =>
    match side? false left, side? true right with
    | some l, some r =>
      if l.length + r.length ≤ 7 then
        some (l ++ List.replicate (8 - l.length - r.length) 0 ++ r)
      else none
    | _, _ => none

/-- How many zeros the pieces start with. -/
def zeroRun (pieces : List Nat) : Nat := (pieces.takeWhile (· == 0)).length

/-- Start and length of the first longest run of at least two zeros, if there is one. -/
def longestRun? (pieces : List Nat) : Option (Nat × Nat) :=
  (List.range pieces.length).foldl (fun best i =>
    let n := zeroRun (pieces.drop i)
    if (best.elim 1 Prod.snd) < n then some (i, n) else best) none

def pieceTexts (pieces : List Nat) : Text :=
  Text.join [':'] (pieces.map (Nat.toDigits 16))

/-- Writes an address, the longest run of zeros as two colons. -/
def text (pieces : List Nat) : Text :=
  match longestRun? pieces with
  | none => pieceTexts pieces
  | some (i, n) => pieceTexts (pieces.take i) ++ [':', ':'] ++ pieceTexts (pieces.drop (i + n))

end PropertyConfig.Url.Ipv6
