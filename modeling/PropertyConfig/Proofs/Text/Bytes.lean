import PropertyConfig.Text.Basic

/-!
# Places between characters

Characters take up one byte or more, so not every number of bytes leads to a place between the
characters of a text (`IsBoundary`). One byte behind the front of a character there is such a place
if and only if the character takes up one byte (`isBoundary_behind_iff`).
-/

namespace PropertyConfig.Text

/-- The number of bytes that a text takes up. -/
def bytes (t : Text) : Nat := (String.ofList t).utf8ByteSize

theorem bytes_append (a b : Text) : bytes (a ++ b) = bytes a + bytes b := by
  rw [bytes, String.ofList_append, String.utf8ByteSize_append, bytes, bytes]

theorem bytes_singleton (c : Char) : bytes [c] = c.utf8Size := by
  rw [bytes, ← String.singleton_eq_ofList, String.utf8ByteSize_singleton]

/-- So many bytes behind the front of a text there is a place between characters, or the end. -/
def IsBoundary (t : Text) (n : Nat) : Prop := (⟨n⟩ : String.Pos.Raw).IsValid (String.ofList t)

theorem isBoundary_front (a b : Text) : IsBoundary (a ++ b) (bytes a) :=
  String.Pos.Raw.isValid_iff_exists_append.2
    ⟨String.ofList a, String.ofList b, String.ofList_append, rfl⟩

/-- One byte behind the front of a character is a place between characters if and only if the
character takes up one byte. -/
theorem isBoundary_behind_iff {a b : Text} {c : Char} :
    IsBoundary (a ++ c :: b) (bytes a + 1) ↔ c.utf8Size = 1 := by
  have hpos : 0 < c.utf8Size := c.utf8Size_pos
  rw [IsBoundary, String.Pos.Raw.isValid_ofList]
  constructor
  · rintro ⟨i, hi⟩
    change bytes a + 1 = bytes ((a ++ c :: b).take i) at hi
    rw [List.take_append, bytes_append] at hi
    by_cases hlong : i ≤ a.length
    · -- no more than `a` takes up too few bytes
      have hsplit : bytes (a.take i) + bytes (a.drop i) = bytes a := by
        rw [← bytes_append, List.take_append_drop]
      rw [Nat.sub_eq_zero_of_le hlong] at hi
      have hnil : bytes [] = 0 := rfl
      rw [List.take_zero, hnil] at hi
      omega
    · obtain ⟨j, hj⟩ : ∃ j, i - a.length = j + 1 := ⟨i - a.length - 1, by omega⟩
      rw [List.take_of_length_le (by omega), hj, List.take_succ_cons, ← List.singleton_append,
        bytes_append, bytes_singleton] at hi
      omega
  · intro hone
    refine ⟨a.length + 1, ?_⟩
    change bytes a + 1 = bytes ((a ++ c :: b).take (a.length + 1))
    rw [List.take_length_add_append, List.take_succ_cons, List.take_zero, bytes_append,
      bytes_singleton, hone]

end PropertyConfig.Text
