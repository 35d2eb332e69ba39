import PropertyConfig.Expansion.Reference
import PropertyConfig.Proofs.Text.Utf8

/-!
# The end of a reference, byte by byte

The closing delimiter of a reference can be looked for among the bytes of the text, by a position
that moves on from byte to byte and over whole delimiters (`Delimiters.closingAt?`). Behind an
escape the position may come to stand within a character. It leaves it again byte by byte, for
nothing is found there (`closingAt?_inside`). So the closing delimiter is found where the reading by
characters finds it (`closingAt?_eq`).
-/

namespace PropertyConfig.Delimiters

/-- Both delimiters of a reference are in use. -/
structure Active (d : Delimiters) : Prop where
  opening_ne_nil : d.opening ≠ []
  closing_ne_nil : d.closing ≠ []

instance (d : Delimiters) : Decidable d.Active :=
  decidable_of_iff (d.opening ≠ [] ∧ d.closing ≠ [])
    ⟨fun h => ⟨h.1, h.2⟩, fun h => ⟨h.opening_ne_nil, h.closing_ne_nil⟩⟩

/-- The byte of the escape. -/
def escapeOctet : UInt8 := 0x5C

theorem utf8EncodeChar_escapeChar : String.utf8EncodeChar escapeChar = [escapeOctet] := rfl

variable {d : Delimiters}

/-! ## By characters -/

theorem bodyLengthFrom?_append (depth : Nat) (a t : Text) :
    d.bodyLengthFrom? a.length depth (a ++ t) =
      (d.bodyLengthFrom? 0 depth t).map (· + a.length) := by
  induction a with
  | nil => simp
  | cons c a ih =>
    rw [List.length_cons, List.cons_append, bodyLengthFrom?, ih, Option.map_map]
    rfl

/-- A delimiter in front, the first character of which has been taken already. -/
theorem bodyLengthFrom?_behind {mark t t' : Text} {c : Char} (hmark : mark ≠ [])
    (h : c :: t' = mark ++ t) (depth : Nat) :
    (d.bodyLengthFrom? (mark.length - 1) depth t').map (· + 1) =
      (d.bodyLengthFrom? 0 depth t).map (· + mark.length) := by
  obtain ⟨m, mark, rfl⟩ := List.exists_cons_of_ne_nil hmark
  obtain rfl : t' = mark ++ t := (List.cons.inj h).2
  rw [List.length_cons, Nat.add_sub_cancel, bodyLengthFrom?_append, Option.map_map]
  rfl

theorem bodyLengthFrom?_escape (depth : Nat) (t : Text) :
    d.bodyLengthFrom? 0 depth (escapeChar :: t) = (d.bodyLengthFrom? 1 depth t).map (· + 1) := by
  rw [bodyLengthFrom?.eq_def]
  exact if_pos rfl

/-- The character behind an escape is passed over. -/
theorem bodyLengthFrom?_escape_cons (depth : Nat) (e : Char) (u : Text) :
    d.bodyLengthFrom? 0 depth (escapeChar :: e :: u) =
      (d.bodyLengthFrom? 0 depth u).map (· + 2) := by
  rw [bodyLengthFrom?_escape, bodyLengthFrom?, Option.map_map]
  rfl

section
variable {c : Char} {t t' : Text} (hc : c ≠ escapeChar)
include hc

theorem bodyLengthFrom?_opening (hd : d.Active) (h : c :: t' = d.opening ++ t) (depth : Nat) :
    d.bodyLengthFrom? 0 depth (c :: t') =
      (d.bodyLengthFrom? 0 (depth + 1) t).map (· + d.opening.length) := by
  rw [← bodyLengthFrom?_behind hd.opening_ne_nil h, bodyLengthFrom?.eq_def]
  exact (if_neg hc).trans (if_pos (List.isPrefixOf_iff_prefix.2 ⟨t, h.symm⟩))

variable (hopening : ¬ d.opening <+: c :: t')
include hopening

theorem bodyLengthFrom?_closing (hd : d.Active) (h : c :: t' = d.closing ++ t) (depth : Nat) :
    d.bodyLengthFrom? 0 depth (c :: t') =
      if depth = 0 then some 0
      else (d.bodyLengthFrom? 0 (depth - 1) t).map (· + d.closing.length) := by
  rw [← bodyLengthFrom?_behind hd.closing_ne_nil h, bodyLengthFrom?.eq_def]
  refine (if_neg hc).trans ((if_neg (mt List.isPrefixOf_iff_prefix.1 hopening)).trans
    ((if_pos (List.isPrefixOf_iff_prefix.2 ⟨t, h.symm⟩)).trans ?_))
  cases depth <;> rfl

theorem bodyLengthFrom?_other (h : ¬ d.closing <+: c :: t') (depth : Nat) :
    d.bodyLengthFrom? 0 depth (c :: t') = (d.bodyLengthFrom? 0 depth t').map (· + 1) := by
  rw [bodyLengthFrom?.eq_def]
  exact (if_neg hc).trans ((if_neg (mt List.isPrefixOf_iff_prefix.1 hopening)).trans
    (if_neg (mt List.isPrefixOf_iff_prefix.1 h)))

end

/-- Where a reference ends, its closing delimiter stands. -/
theorem closing_of_bodyLengthFrom? {skip depth n : Nat} {t : Text}
    (h : d.bodyLengthFrom? skip depth t = some n) : d.closing <+: t.drop n := by
  fun_induction bodyLengthFrom? d skip depth t generalizing n with
  | case1 => cases h
  | case5 c t hescape hopening hclosing =>
    obtain rfl := Option.some.inj h
    exact List.isPrefixOf_iff_prefix.1 hclosing
  | case2 _ _ _ _ ih | case3 _ _ ih | case4 _ _ _ _ _ ih | case6 _ _ _ _ _ _ ih
    | case7 _ _ _ _ _ _ ih =>
    obtain ⟨m, hm, rfl⟩ := Option.map_eq_some_iff.1 h
    exact ih hm

theorem le_length_of_bodyLengthFrom? (hd : d.Active) {skip depth n : Nat} {t : Text}
    (h : d.bodyLengthFrom? skip depth t = some n) : n ≤ t.length := by
  by_contra hlt
  have hclosing := closing_of_bodyLengthFrom? h
  rw [List.drop_of_length_le (by omega), List.prefix_nil] at hclosing
  exact hd.closing_ne_nil hclosing

/-! ## By bytes -/

open Text.Utf8 (encode)

/-- Where the closing delimiter starts that belongs to an opening one just before `pos`, among the
bytes of the text (`find_end_delimiter`). As in `bodyLengthFrom?`, `depth` counts the other opening
delimiters that are unmatched. -/
def closingAt? (d : Delimiters) (hd : d.Active) (octets : List UInt8) (pos depth : Nat) :
    Option Nat :=
  if h : pos < octets.length then
    if octets[pos] = escapeOctet then closingAt? d hd octets (pos + 2) depth
    else if (encode d.opening).isPrefixOf (octets.drop pos) then
      closingAt? d hd octets (pos + (encode d.opening).length) (depth + 1)
    else if (encode d.closing).isPrefixOf (octets.drop pos) then
      if depth = 0 then some pos
      else closingAt? d hd octets (pos + (encode d.closing).length) (depth - 1)
    else closingAt? d hd octets (pos + 1) depth
  else none
termination_by octets.length - pos
decreasing_by
  · omega
  · have := Text.bytes_pos hd.opening_ne_nil
    rw [Text.Utf8.length_encode]
    omega
  · have := Text.bytes_pos hd.closing_ne_nil
    rw [Text.Utf8.length_encode]
    omega
  · omega

section
variable (hd : d.Active)

theorem le_of_closingAt? {octets : List UInt8} {pos depth n : Nat}
    (h : closingAt? d hd octets pos depth = some n) : pos ≤ n := by
  fun_induction closingAt? d hd octets pos depth with
  | case1 _ _ _ _ ih | case2 _ _ _ _ _ ih | case4 _ _ _ _ _ _ _ ih | case5 _ _ _ _ _ _ ih =>
    have hle := ih h
    omega
  | case3 => exact (Option.some.inj h).le
  | case6 => cases h

theorem closingAt?_of_length_le {octets : List UInt8} {pos depth : Nat} (h : octets.length ≤ pos) :
    closingAt? d hd octets pos depth = none := by
  rw [closingAt?.eq_def, dif_neg (Nat.not_lt.2 h)]

/-- A byte that starts no character is passed over. -/
theorem closingAt?_of_not_isFirst {octets : List UInt8} {pos depth : Nat} {octet : UInt8}
    (hoctet : octets[pos]? = some octet) (h : Text.Utf8.isFirst octet = false) :
    closingAt? d hd octets pos depth = closingAt? d hd octets (pos + 1) depth := by
  obtain ⟨hlt, rfl⟩ := List.getElem?_eq_some_iff.1 hoctet
  have hnone {mark : Text} (hmark : mark ≠ []) :
      (encode mark).isPrefixOf (octets.drop pos) = false := by
    rw [← Bool.not_eq_true, List.isPrefixOf_iff_prefix]
    intro hlead
    obtain ⟨first, hfirst, hisFirst⟩ := Text.Utf8.exists_first_of_isPrefix hmark hlead
    rw [List.getElem?_drop, Nat.add_zero, hoctet] at hfirst
    rw [← Option.some.inj hfirst, h] at hisFirst
    cases hisFirst
  have hescape : octets[pos] ≠ escapeOctet := by
    intro hescape
    rw [hescape] at h
    exact absurd h (by decide)
  rw [closingAt?.eq_def, dif_pos hlt, if_neg hescape, hnone hd.opening_ne_nil,
    hnone hd.closing_ne_nil]
  rfl

/-- From within a character the position comes to its end. -/
theorem closingAt?_inside (a b : Text) (c : Char) (depth : Nat) {i : Nat} (hpos : 0 < i)
    (hle : i ≤ c.utf8Size) :
    closingAt? d hd (encode (a ++ c :: b)) (Text.bytes a + i) depth =
      closingAt? d hd (encode (a ++ c :: b)) (Text.bytes (a ++ [c])) depth := by
  induction hrest : c.utf8Size - i generalizing i with
  | zero =>
    obtain rfl : i = c.utf8Size := by omega
    rw [Text.bytes_append, Text.bytes_singleton]
  | succ n ih =>
    obtain ⟨octet, hoctet, hnot⟩ :=
      Text.Utf8.not_isFirst_of_inside (a := a) (b := b) hpos (by omega : i < c.utf8Size)
    rw [closingAt?_of_not_isFirst hd hoctet hnot]
    exact ih (i := i + 1) (by omega) (by omega) (by omega)

/-- What is done at the first byte of a character. -/
theorem closingAt?_first (a t : Text) (c : Char) (depth : Nat) :
    closingAt? d hd (encode (a ++ c :: t)) (Text.bytes a) depth =
      if c = escapeChar then closingAt? d hd (encode (a ++ c :: t)) (Text.bytes a + 2) depth
      else if d.opening.isPrefixOf (c :: t) then
        closingAt? d hd (encode (a ++ c :: t)) (Text.bytes (a ++ d.opening)) (depth + 1)
      else if d.closing.isPrefixOf (c :: t) then
        if depth = 0 then some (Text.bytes a)
        else closingAt? d hd (encode (a ++ c :: t)) (Text.bytes (a ++ d.closing)) (depth - 1)
      else closingAt? d hd (encode (a ++ c :: t)) (Text.bytes a + 1) depth := by
  have hlt : Text.bytes a < (encode (a ++ c :: t)).length := by
    have hpos := Text.bytes_pos (List.cons_ne_nil c t)
    rw [Text.Utf8.length_encode, Text.bytes_append]
    omega
  have hescape : (encode (a ++ c :: t))[Text.bytes a] = escapeOctet ↔ c = escapeChar := by
    rw [← Text.Utf8.getElem?_encode_cons_iff utf8EncodeChar_escapeChar (a := a) (b := t),
      List.getElem?_eq_getElem hlt, Option.some.injEq]
  rw [closingAt?.eq_def, dif_pos hlt, Text.Utf8.isPrefixOf_drop_encode,
    Text.Utf8.isPrefixOf_drop_encode, Text.bytes_append, Text.bytes_append,
    Text.Utf8.length_encode, Text.Utf8.length_encode]
  simp only [hescape]

/-- An escape at the end leads behind the text. -/
theorem closingAt?_escape_nil (a : Text) (depth : Nat) :
    closingAt? d hd (encode (a ++ [escapeChar])) (Text.bytes a) depth = none := by
  have hsize : Text.bytes (a ++ [escapeChar]) = Text.bytes a + 1 := Text.bytes_append _ _
  rw [closingAt?_first, if_pos rfl]
  exact closingAt?_of_length_le hd (by rw [Text.Utf8.length_encode, hsize]; omega)

/-- An escape leads over the character behind it, however many bytes this has. -/
theorem closingAt?_escape_cons (a u : Text) (e : Char) (depth : Nat) :
    closingAt? d hd (encode (a ++ escapeChar :: e :: u)) (Text.bytes a) depth =
      closingAt? d hd (encode (a ++ escapeChar :: e :: u)) (Text.bytes (a ++ [escapeChar, e]))
        depth := by
  -- the position comes to stand behind the first byte of that character
  have hplace : Text.bytes a + 2 = Text.bytes (a ++ [escapeChar]) + 1 := by
    rw [Text.bytes_append, Text.bytes_singleton]
    rfl
  have hinside := closingAt?_inside hd (a ++ [escapeChar]) u e depth Nat.one_pos e.utf8Size_pos
  rw [closingAt?_first, if_pos rfl, hplace]
  simpa only [List.append_assoc, List.singleton_append] using hinside

/-- A character that is no part of a mark leads to the next one. -/
theorem closingAt?_other {c : Char} {t : Text} (hc : c ≠ escapeChar)
    (hopening : ¬ d.opening <+: c :: t) (hclosing : ¬ d.closing <+: c :: t) (a : Text)
    (depth : Nat) :
    closingAt? d hd (encode (a ++ c :: t)) (Text.bytes a) depth =
      closingAt? d hd (encode (a ++ c :: t)) (Text.bytes (a ++ [c])) depth := by
  rw [closingAt?_first, if_neg hc, if_neg (mt List.isPrefixOf_iff_prefix.1 hopening),
    if_neg (mt List.isPrefixOf_iff_prefix.1 hclosing)]
  exact closingAt?_inside hd a t c depth Nat.one_pos c.utf8Size_pos

/-! ## By bytes and by characters -/

/-- The same place in front of a text and within it. -/
theorem map_place (a b t : Text) (n : Option Nat) :
    (n.map fun n => Text.bytes (a ++ b) + Text.bytes (t.take n)) =
      (n.map (· + b.length)).map fun n => Text.bytes a + Text.bytes ((b ++ t).take n) := by
  rw [Option.map_map]
  refine Option.map_congr fun n _ => ?_
  rw [Function.comp_apply, Nat.add_comm n, List.take_length_add_append, Text.bytes_append,
    Text.bytes_append, Nat.add_assoc]

/-- Bytes and characters lead to the same closing delimiter. -/
theorem closingAt?_eq (depth : Nat) (a t : Text) :
    closingAt? d hd (encode (a ++ t)) (Text.bytes a) depth =
      (d.bodyLengthFrom? 0 depth t).map fun n => Text.bytes a + Text.bytes (t.take n) := by
  induction hlength : t.length using Nat.strong_induction_on generalizing depth a t with
  | _ length ih =>
    subst hlength
    -- behind `b` the two go on from the same place
    have hbehind {b u : Text} (hb : b ≠ []) (ht : t = b ++ u) (depth : Nat) :
        closingAt? d hd (encode (a ++ t)) (Text.bytes (a ++ b)) depth =
          ((d.bodyLengthFrom? 0 depth u).map (· + b.length)).map fun n =>
            Text.bytes a + Text.bytes (t.take n) := by
      have hlt : u.length < t.length := by
        have hpos := List.length_pos_iff.2 hb
        rw [ht, List.length_append]
        omega
      rw [ht, ← map_place, ← List.append_assoc]
      exact ih _ hlt depth (a ++ b) u rfl
    cases t with
    | nil =>
      rw [closingAt?_of_length_le hd (by rw [List.append_nil, Text.Utf8.length_encode])]
      rfl
    | cons c t =>
      by_cases hc : c = escapeChar
      · obtain rfl := hc
        cases t with
        | nil =>
          rw [closingAt?_escape_nil]
          rfl
        | cons e u =>
          rw [closingAt?_escape_cons, bodyLengthFrom?_escape_cons]
          exact hbehind (List.cons_ne_nil escapeChar [e]) rfl depth
      by_cases hopening : d.opening <+: c :: t
      · obtain ⟨u, hu⟩ := hopening
        rw [closingAt?_first, if_neg hc, if_pos (List.isPrefixOf_iff_prefix.2 ⟨u, hu⟩),
          bodyLengthFrom?_opening hc hd hu.symm]
        exact hbehind hd.opening_ne_nil hu.symm (depth + 1)
      by_cases hclosing : d.closing <+: c :: t
      · obtain ⟨u, hu⟩ := hclosing
        rw [closingAt?_first, if_neg hc, if_neg (mt List.isPrefixOf_iff_prefix.1 hopening),
          if_pos (List.isPrefixOf_iff_prefix.2 ⟨u, hu⟩),
          bodyLengthFrom?_closing hc hopening hd hu.symm]
        split
        · rfl
        · exact hbehind hd.closing_ne_nil hu.symm (depth - 1)
      rw [closingAt?_other hd hc hopening hclosing, bodyLengthFrom?_other hc hopening hclosing]
      exact hbehind (List.cons_ne_nil c []) rfl depth

end

end PropertyConfig.Delimiters
