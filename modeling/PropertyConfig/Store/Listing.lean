import PropertyConfig.Store.Edit

/-!
# Properties in a row

The properties of a store can be written one behind the other in one text, as in
`[name] key=value key="a value"`. `Listing.read` takes such a text apart, and `Store.text` writes
the entries of a store in this form.
-/

namespace PropertyConfig

/-- What a text of properties in a row says. -/
structure Listing where
  name : Option Text
  pairs : List (Text × Text)
deriving DecidableEq, Repr

namespace Listing

/-- Whether a character stands between two properties. -/
def isDivider (p : Policy) (c : Char) : Bool := c = p.divider

def isSeparator (p : Policy) (c : Char) : Bool := p.separators.contains c

/-- Keys and values without quotes go up to the next divider or blank. -/
def isPlain (p : Policy) (c : Char) : Bool := !Text.isBlankChar c && !isDivider p c

def isKeyChar (p : Policy) (c : Char) : Bool := isPlain p c && !isSeparator p c

/-- Blanks around separators do not count, unless blanks are what divides properties. -/
def skipBlanks (p : Policy) (t : Text) : Text :=
  if p.divider = ' ' ∨ p.divider = '\x00' then t else Text.trimStart t

/-- A quoted value, given what stands behind the quote that opens it, and what follows the quote
that closes it. Behind an escape any character stands for itself. -/
def readQuoted : Text → Text × Text
  | [] => ([], [])
  | '"' :: t => ([], t)
  | '\\' :: c :: t => (c :: (readQuoted t).1, (readQuoted t).2)
  | c :: t => (c :: (readQuoted t).1, (readQuoted t).2)

/-- A value, quoted or plain, and what follows it. -/
def readValue (p : Policy) (t : Text) : Text × Text :=
  match t with
  | '"' :: t => readQuoted t
  | t => (t.takeWhile (isPlain p), t.dropWhile (isPlain p))

/-- The value behind a key, if a separator stands there, and what follows it. -/
def readAssigned (p : Policy) (t : Text) : Text × Text :=
  match skipBlanks p t with
  | [] => ([], [])
  | c :: rest => if isSeparator p c then readValue p (skipBlanks p rest) else ([], c :: rest)

/-- A property at the front of a text, and what follows it. The key may be empty. -/
def readPair (p : Policy) (t : Text) : (Text × Text) × Text :=
  let (value, rest) := readAssigned p (t.dropWhile (isKeyChar p))
  ((t.takeWhile (isKeyChar p), value), rest)

theorem readQuoted_suffix (t : Text) : (readQuoted t).2 <:+ t := by
  fun_induction readQuoted t with
  | case1 => exact List.suffix_refl _
  | case2 t => exact List.suffix_cons _ _
  | case3 c t ih => exact (ih.trans (List.suffix_cons _ _)).trans (List.suffix_cons _ _)
  | case4 c t _ _ ih => exact ih.trans (List.suffix_cons _ _)

theorem readValue_suffix (p : Policy) (t : Text) : (readValue p t).2 <:+ t := by
  unfold readValue
  split
  · exact (readQuoted_suffix _).trans (List.suffix_cons _ _)
  · exact List.dropWhile_suffix _

theorem skipBlanks_suffix (p : Policy) (t : Text) : skipBlanks p t <:+ t := by
  unfold skipBlanks Text.trimStart
  split
  · exact List.suffix_refl _
  · exact List.dropWhile_suffix _

theorem readAssigned_suffix (p : Policy) (t : Text) : (readAssigned p t).2 <:+ t := by
  unfold readAssigned
  have h := skipBlanks_suffix p t
  split
  · exact List.nil_suffix
  · next c rest hc =>
    rw [hc] at h
    split
    · exact ((readValue_suffix p _).trans (skipBlanks_suffix p rest)).trans
        ((List.suffix_cons c rest).trans h)
    · exact h

theorem readPair_suffix (p : Policy) (t : Text) : (readPair p t).2 <:+ t :=
  (readAssigned_suffix p _).trans (List.dropWhile_suffix _)

/-- The properties of a text. What stands between a property and the next divider is junk. -/
def readPairs (p : Policy) (t : Text) : List (Text × Text) :=
  match _h : t.dropWhile fun c => !isPlain p c with
  | [] => []
  | c :: rest =>
    let found := readPair p (c :: rest)
    (if found.1.1 = [] then [] else [found.1]) ++
      readPairs p (found.2.dropWhile fun c => !isDivider p c)
termination_by t.length
decreasing_by
  have hlen : (c :: rest).length ≤ t.length := _h ▸ (List.dropWhile_suffix _).length_le
  have hplain : isPlain p c = true := by
    have := List.head?_dropWhile_not (fun c => !isPlain p c) t
    simpa [_h] using this
  have hsuffix := readPair_suffix p (c :: rest)
  rcases Nat.lt_or_ge (readPair p (c :: rest)).2.length (c :: rest).length with hlt | hge
  · exact Nat.lt_of_le_of_lt (List.dropWhile_suffix _).length_le (Nat.lt_of_lt_of_le hlt hlen)
  · rw [hsuffix.eq_of_length_le hge]
    have hnot : isDivider p c = false := by
      simp only [isPlain, Bool.and_eq_true, Bool.not_eq_true'] at hplain
      exact hplain.2
    rw [List.dropWhile_cons_of_pos (by simp [hnot])]
    exact Nat.lt_of_le_of_lt (List.dropWhile_suffix _).length_le
      (Nat.lt_of_lt_of_le (Nat.lt_succ_self _) hlen)

/-- A name in brackets at the front of a text, if there is one, and what follows. A bracket that is
never closed is passed over. -/
def splitName (t : Text) : Option Text × Text :=
  match t with
  | '[' :: rest =>
    match Text.cutAt? (· = ']') rest with
    | some (name, _, rest) => (some (Text.trim name), Text.trim rest)
    | none => (none, Text.trim rest)
  | t => (none, t)

/-- Reads properties in a row (`parse_properties`). The name is the one in brackets, or else the
first value that the name's key is given; it is none of the pairs. -/
def read (p : Policy) (t : Text) : Listing :=
  let (name, rest) := splitName (Text.trim t)
  let pairs := readPairs p (Text.trim rest)
  { name := name.or (pairs.lookup nameKey)
    pairs := pairs.filter fun e => e.1 != nameKey }

/-- The edits that put the properties into a store, the name last and only if `withName` is set. -/
def edits (l : Listing) (withName : Bool) : List Edit :=
  l.pairs.map (fun (key, value) => .set key value) ++
    if withName then l.name.toList.map (.set nameKey) else []

end Listing

namespace Store

/-- The store that a text of properties in a row describes (`parse`). -/
def ofListing (t : Text) : Store := run {} ((Listing.read {} t).edits true)

/-! ## Writing -/

/-- A value has to be quoted if it would end too early otherwise. -/
def needsQuotes (p : Policy) (value : Text) : Bool :=
  value == [] || value.any fun c => Text.isBlankChar c || c = p.divider || c = '"'

/-- Escapes quotes and escapes. -/
def escape (value : Text) : Text :=
  value.flatMap fun c => if c = '\\' ∨ c = '"' then ['\\', c] else [c]

def valueText (p : Policy) (value : Text) : Text :=
  if needsQuotes p value then '"' :: escape value ++ ['"'] else value

def entryText (p : Policy) (e : Entry) : Text := e.1 ++ p.separator :: valueText p e.2

/-- The entries in a row, as a store is shown (`fmt`). -/
def text (s : Store) : Text := Text.join [s.policy.divider] (s.entries.map (entryText s.policy))

/-- The entries, each on a line of its own: what is written to a file (`save`). -/
def savedText (s : Store) : Text :=
  s.entries.flatMap fun (key, value) => key ++ s.policy.separator :: value ++ ['\n']

end Store

end PropertyConfig
