import PropertyConfig.Store.Edit

/-!
# Properties from a command line

A command line gives properties as `key=value` or `-key=value`, as `-key value`, or as `-key` or
`key` alone, which stand for an empty value. A bare `-` or `--` ends them.
-/

namespace PropertyConfig

/-- What a single argument says. -/
inductive Argument
  /-- Nothing: it is blank, or it has no key. -/
  | none
  | pair (key value : Text)
  /-- A key with a dash whose value may be the next argument. -/
  | option (key : Text)
  /-- The end of the properties. -/
  | stop
  /-- An argument with a separator that it cannot be divided at. -/
  | undivided
deriving DecidableEq, Repr

namespace Argument

/-- What stands within a pair of quotes. -/
def within? (quote : Char) (t : Text) : Option Text :=
  match t with
  | [] => Option.none
  | c :: rest => if c = quote ∧ rest.getLast? = some quote then some rest.dropLast else Option.none

/-- The text without the single or double quotes around it, if there are any. -/
def unquote (t : Text) : Text := ((within? '\'' t).or (within? '"' t)).getD t

def dropDashes (t : Text) : Text := t.dropWhile (· = '-')

/-- Whether a text starts with a dash. -/
def isDashed (t : Text) : Bool := t.head? == some '-'

/-- An argument is divided behind the first byte of its separator, which is no place to divide it at
if the separator has more bytes. -/
def dividesAt (separator : Char) : Bool := separator.utf8Size == 1

/-- Reads an argument (a round of the loop in `set_args`). With a separator in it, it is a key and a
value, both without the blanks around them. -/
def read (separators : List Char) (t : Text) : Argument :=
  if Text.isBlank t then .none
  else
    let whole := unquote t
    match Text.cutAt? separators.contains whole with
    | some (key, separator, value) =>
      let key := dropDashes (Text.trim key)
      if !dividesAt separator then .undivided
      else if key = [] then .none
      else .pair key (Text.trim value)
    | Option.none =>
      if whole = [] then .none
      else if isDashed whole then
        if dropDashes whole = [] then .stop else .option (dropDashes whole)
      else .pair whole []

end Argument

/-- Why the properties of a command line end. -/
inductive Ending
  /-- There are no more arguments. -/
  | exhausted
  /-- A bare dash ends them, and `rest` stands behind it. -/
  | stopped (rest : List Text)
  /-- An argument cannot be divided. -/
  | undivided (argument : Text)
deriving DecidableEq, Repr

/-- What a list of arguments says: properties, and why there are no more of them. -/
structure Arguments where
  pairs : List (Text × Text)
  ending : Ending
deriving DecidableEq, Repr

namespace Arguments

def push (pair : Text × Text) (a : Arguments) : Arguments := { a with pairs := pair :: a.pairs }

/-- Reads arguments from left to right (`set_args`). An option takes the next argument as its value
unless that one has a dash, too. -/
def read (separators : List Char) : List Text → Arguments
  | [] => ⟨[], .exhausted⟩
  | t :: rest =>
    match Argument.read separators t with
    | .none => read separators rest
    | .pair key value => (read separators rest).push (key, value)
    | .stop => ⟨[], .stopped rest⟩
    | .undivided => ⟨[], .undivided t⟩
    | .option key =>
      match rest with
      | [] => ⟨[(key, [])], .exhausted⟩
      | next :: rest' =>
        if Argument.isDashed next then (read separators (next :: rest')).push (key, [])
        else (read separators rest').push (key, next)

def edits (a : Arguments) : List Edit := a.pairs.map fun (key, value) => .set key value

/-- The position among `count` arguments of the first one behind the end of the properties, which
`set_args` returns. -/
def nextIndex? (a : Arguments) (count : Nat) : Option Nat :=
  match a.ending with
  | .stopped (t :: rest) => some (count - (t :: rest).length)
  | _ => none

end Arguments

/-- The store that a command line describes (`from_args`). -/
def Store.ofArguments (arguments : List Text) : Store :=
  let policy : Policy := {}
  Store.run { policy } (Arguments.read policy.separators arguments).edits

end PropertyConfig
