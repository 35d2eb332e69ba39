import Mathlib.Data.List.Basic
import Mathlib.Data.List.Induction
import Mathlib.Data.Nat.Digits.Defs
import PropertyConfig.Number.Literal
import PropertyConfig.Text.Blank

/-!
# Digits and signs

Digits are neither blanks nor signs, so a sign is split off as it was written in front of them
(`splitSign_append`). A text of digits denotes the number that they are the digits of
(`numeral_eq_ofDigits`), and the digits that a number is written with denote this number
(`numeral_decimalDigits`).
-/

namespace PropertyConfig

/-! ## Characters -/

theorem toNat_of_isDigit {c : Char} (h : c.isDigit) : 48 ≤ c.toNat ∧ c.toNat ≤ 57 := by
  simp only [Char.isDigit, Bool.and_eq_true, decide_eq_true_eq] at h
  exact ⟨UInt32.le_iff_toNat_le.1 h.1, UInt32.le_iff_toNat_le.1 h.2⟩

theorem toNat_of_isHexDigit {c : Char} (h : isHexDigit c) :
    (48 ≤ c.toNat ∧ c.toNat ≤ 57) ∨ (97 ≤ c.toNat ∧ c.toNat ≤ 102) ∨
      (65 ≤ c.toNat ∧ c.toNat ≤ 70) := by
  simp only [isHexDigit, Bool.or_eq_true, Bool.and_eq_true, decide_eq_true_eq] at h
  rcases h with (h | h) | h
  · exact .inl (toNat_of_isDigit h)
  · exact .inr (.inl ⟨UInt32.le_iff_toNat_le.1 h.1, UInt32.le_iff_toNat_le.1 h.2⟩)
  · exact .inr (.inr ⟨UInt32.le_iff_toNat_le.1 h.1, UInt32.le_iff_toNat_le.1 h.2⟩)

theorem isBlankChar_of_isHexDigit {c : Char} (h : isHexDigit c) : Text.isBlankChar c = false := by
  have hbounds := toNat_of_isHexDigit h
  exact Text.isBlankChar_eq_false_of_between (by omega) (by omega)

theorem isHexDigit_of_isDigit {c : Char} (h : c.isDigit) : isHexDigit c := by simp [isHexDigit, h]

theorem isBlankChar_of_isDigit {c : Char} (h : c.isDigit) : Text.isBlankChar c = false :=
  isBlankChar_of_isHexDigit (isHexDigit_of_isDigit h)

/-! ## Signs -/

/-- What can stand in front of a number. -/
def signs : List Text := [[], ['-'], ['+']]

theorem splitSign_append_of_head {sign body : Text} (hsign : sign ∈ signs)
    (hbody : ∀ c ∈ body.head?, c ≠ '-' ∧ c ≠ '+') : splitSign (sign ++ body) = (sign, body) := by
  simp only [signs, List.mem_cons, List.not_mem_nil, or_false] at hsign
  rcases hsign with rfl | rfl | rfl
  · rw [List.nil_append, splitSign]
    · rintro t rfl
      exact (hbody '-' rfl).1 rfl
    · rintro t rfl
      exact (hbody '+' rfl).2 rfl
  · rfl
  · rfl

theorem splitSign_append {sign body : Text} (hsign : sign ∈ signs)
    (hbody : ∀ c ∈ body.head?, isHexDigit c) : splitSign (sign ++ body) = (sign, body) := by
  refine splitSign_append_of_head hsign fun c hc => ⟨?_, ?_⟩
  · rintro rfl
    exact absurd (hbody '-' hc) (by decide)
  · rintro rfl
    exact absurd (hbody '+' hc) (by decide)

theorem exists_splitSign (t : Text) :
    ∃ sign ∈ signs, ∃ rest, t = sign ++ rest ∧ splitSign t = (sign, rest) := by
  unfold splitSign
  split
  · exact ⟨['-'], by decide, _, rfl, rfl⟩
  · exact ⟨['+'], by decide, _, rfl, rfl⟩
  · exact ⟨[], by decide, _, rfl, rfl⟩

/-! ## Numbers -/

theorem numeral_eq_ofDigits (base : Nat) (digits : Text) :
    numeral base digits = Nat.ofDigits base (digits.map digitValue).reverse := by
  induction digits using List.reverseRecOn with
  | nil => rfl
  | append_singleton digits c ih =>
    rw [numeral_concat, ih, List.map_append, List.reverse_append, List.map_singleton,
      List.reverse_singleton, List.singleton_append, Nat.ofDigits_cons]
    omega

theorem isDigit_of_mem_decimalDigits {n : Nat} {c : Char} (h : c ∈ decimalDigits n) : c.isDigit :=
  Nat.isDigit_of_mem_toDigits (by decide) (by decide) h

theorem numeral_decimalDigits (n : Nat) : numeral 10 (decimalDigits n) = n := by
  have hvalues : ∀ k, ∀ c ∈ decimalDigits n,
      10 * k + digitValue c = 10 * k + (c.toNat - '0'.toNat) := by
    intro k c hc
    rw [digitValue, if_pos (isDigit_of_mem_decimalDigits hc)]
  calc numeral 10 (decimalDigits n)
      = Nat.ofDigitChars 10 (decimalDigits n) 0 := List.foldl_ext _ _ _ hvalues
    _ = n := Nat.ofDigitChars_toDigits (by decide) (by decide)

end PropertyConfig
