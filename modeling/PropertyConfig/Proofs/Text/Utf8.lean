import Mathlib.Data.List.Infix
import PropertyConfig.Proofs.Text.Bytes
import PropertyConfig.Text.Utf8

/-!
# Characters among bytes

A text can be searched byte by byte. No character's bytes start with those of another one, so a text
starts with a mark if its bytes start with the bytes of the mark (`encode_isPrefix_iff`). The bytes
of a character other than its first one start no character; nothing is found among them
(`not_isFirst_of_inside`).
-/

namespace PropertyConfig.Text

theorem bytes_cons (c : Char) (t : Text) : bytes (c :: t) = c.utf8Size + bytes t := by
  rw [← List.singleton_append, bytes_append, bytes_singleton]

theorem bytes_pos {t : Text} (h : t ≠ []) : 0 < bytes t := by
  obtain ⟨c, u, rfl⟩ := List.exists_cons_of_ne_nil h
  have := c.utf8Size_pos
  rw [bytes_cons]
  omega

namespace Utf8

@[simp] theorem encode_nil : encode [] = [] := rfl

theorem encode_cons (c : Char) (t : Text) :
    encode (c :: t) = String.utf8EncodeChar c ++ encode t := rfl

theorem encode_append (a b : Text) : encode (a ++ b) = encode a ++ encode b :=
  List.flatMap_append

theorem length_encode (t : Text) : (encode t).length = bytes t := by
  induction t with
  | nil => rfl
  | cons c t ih =>
    rw [encode_cons, List.length_append, ih, String.length_utf8EncodeChar, bytes_cons]

theorem drop_encode (a b : Text) : (encode (a ++ b)).drop (bytes a) = encode b := by
  rw [encode_append, ← length_encode, List.drop_left]

/-! ## One character after the other -/

theorem encode_char_unique {c d : Char} {x y : List UInt8}
    (h : String.utf8EncodeChar c ++ x = String.utf8EncodeChar d ++ y) : c = d := by
  have hdecode := congrArg (fun l => ByteArray.utf8DecodeChar? l.toByteArray 0) h
  simpa [ByteArray.utf8DecodeChar?_utf8EncodeChar_append] using hdecode

theorem encode_isPrefix_iff {a b : Text} : encode a <+: encode b ↔ a <+: b := by
  constructor
  · intro h
    induction a generalizing b with
    | nil => exact List.nil_prefix
    | cons c a ih =>
      cases b with
      | nil =>
        have hnil := (List.append_eq_nil_iff.1 (List.prefix_nil.1 h)).1
        exact absurd hnil String.utf8EncodeChar_ne_nil
      | cons d b =>
        obtain ⟨rest, hrest⟩ := h
        rw [encode_cons, encode_cons, List.append_assoc] at hrest
        obtain rfl := encode_char_unique hrest
        exact List.cons_prefix_cons.2 ⟨rfl, ih ⟨rest, List.append_cancel_left hrest⟩⟩
  · rintro ⟨rest, rfl⟩
    rw [encode_append]
    exact List.prefix_append _ _

theorem isPrefixOf_drop_encode (mark a b : Text) :
    (encode mark).isPrefixOf ((encode (a ++ b)).drop (bytes a)) = mark.isPrefixOf b := by
  rw [drop_encode, Bool.eq_iff_iff, List.isPrefixOf_iff_prefix, List.isPrefixOf_iff_prefix,
    encode_isPrefix_iff]

/-! ## Within a character -/

/-- Whether a byte starts the bytes of some character. -/
def isFirst (b : UInt8) : Bool := decide b.IsUTF8FirstByte

theorem isFirst_encode_char {c : Char} {i : Nat} {b : UInt8}
    (h : (String.utf8EncodeChar c)[i]? = some b) : isFirst b ↔ i = 0 := by
  obtain ⟨hi, rfl⟩ := List.getElem?_eq_some_iff.1 h
  rw [isFirst, decide_eq_true_iff]
  exact UInt8.isUTF8FirstByte_getElem_utf8EncodeChar

/-- The byte at a place within a character. -/
theorem getElem?_encode_inside (a b : Text) (c : Char) {i : Nat} (h : i < c.utf8Size) :
    (encode (a ++ c :: b))[bytes a + i]? = (String.utf8EncodeChar c)[i]? := by
  rw [← List.getElem?_drop, drop_encode, encode_cons,
    List.getElem?_append_left (by rwa [String.length_utf8EncodeChar])]

theorem not_isFirst_of_inside {a b : Text} {c : Char} {i : Nat} (hpos : 0 < i)
    (h : i < c.utf8Size) :
    ∃ octet, (encode (a ++ c :: b))[bytes a + i]? = some octet ∧ isFirst octet = false := by
  have hi : i < (String.utf8EncodeChar c).length := by rwa [String.length_utf8EncodeChar]
  refine ⟨_, (getElem?_encode_inside a b c h).trans (List.getElem?_eq_getElem hi), ?_⟩
  rw [← Bool.not_eq_true, isFirst_encode_char (List.getElem?_eq_getElem hi)]
  omega

/-- What starts with the bytes of a text starts with the first byte of a character. -/
theorem exists_first_of_isPrefix {mark : Text} (hmark : mark ≠ []) {l : List UInt8}
    (h : encode mark <+: l) : ∃ octet, l[0]? = some octet ∧ isFirst octet := by
  obtain ⟨c, t, rfl⟩ := List.exists_cons_of_ne_nil hmark
  obtain ⟨rest, rfl⟩ := h
  have hpos : 0 < (String.utf8EncodeChar c).length := by
    rw [String.length_utf8EncodeChar]
    exact c.utf8Size_pos
  rw [encode_cons, List.append_assoc, List.getElem?_append_left hpos,
    List.getElem?_eq_getElem hpos]
  exact ⟨_, rfl, (isFirst_encode_char (List.getElem?_eq_getElem hpos)).2 rfl⟩

/-! ## Characters of one byte -/

section
variable {c : Char} {octet : UInt8} (hc : String.utf8EncodeChar c = [octet])
include hc

/-- The byte of such a character is in no other character. -/
theorem eq_of_getElem?_encode_char {d : Char} {i : Nat}
    (h : (String.utf8EncodeChar d)[i]? = some octet) : i = 0 ∧ c = d := by
  have hfirst : (String.utf8EncodeChar c)[0]? = some octet := by rw [hc]; rfl
  obtain rfl := (isFirst_encode_char h).1 ((isFirst_encode_char hfirst).2 rfl)
  obtain ⟨rest, hd⟩ : ∃ rest, String.utf8EncodeChar d = octet :: rest := by
    cases hd : String.utf8EncodeChar d with
    | nil => exact absurd hd String.utf8EncodeChar_ne_nil
    | cons b rest =>
      rw [hd] at h
      exact ⟨rest, by rw [Option.some.inj h]⟩
  refine ⟨rfl, encode_char_unique (x := rest) (y := []) ?_⟩
  rw [hc, hd, List.append_nil]
  rfl

theorem getElem?_encode_cons_iff {a b : Text} {d : Char} :
    (encode (a ++ d :: b))[bytes a]? = some octet ↔ d = c := by
  have hpos := d.utf8Size_pos
  rw [← Nat.add_zero (bytes a), getElem?_encode_inside a b d hpos]
  constructor
  · exact fun h => (eq_of_getElem?_encode_char hc h).2.symm
  · rintro rfl
    rw [hc]
    rfl

/-- The byte in front of a place belongs to the character in front of it. -/
theorem getElem?_encode_before_iff {a b : Text} (ha : a ≠ []) :
    (encode (a ++ b))[bytes a - 1]? = some octet ↔ a.getLast? = some c := by
  obtain ⟨front, d, rfl⟩ := List.eq_nil_or_concat a |>.resolve_left ha
  have hpos := d.utf8Size_pos
  have hplace : bytes (front ++ [d]) - 1 = bytes front + (d.utf8Size - 1) := by
    rw [bytes_append, bytes_singleton]
    omega
  rw [List.concat_eq_append, hplace, List.append_assoc, List.singleton_append,
    getElem?_encode_inside front b d (by omega), List.getLast?_concat]
  constructor
  · exact fun h => congrArg some (eq_of_getElem?_encode_char hc h).2.symm
  · intro h
    obtain rfl := Option.some.inj h
    rw [hc]
    have hsize : d.utf8Size = 1 := by rw [← String.length_utf8EncodeChar, hc]; rfl
    rw [hsize]
    rfl

end

end Utf8

end PropertyConfig.Text
