import PropertyConfig.Text.Blank
import PropertyConfig.Text.Letters

/-!
# Letters in lower case

Changing the case moves the 26 letters by 32 code points and nothing else (`toNat_toLower`,
`toNat_toUpper`), so a character that is no capital comes back from upper case (`toLower_toUpper`).
A character below the lower case letters is the lower case of nothing but itself
(`eq_of_toLower_eq`), so texts with the same letters agree on it. They also agree on where their
blanks are (`isBlankChar_toLower`).
-/

namespace PropertyConfig.Text

theorem toNat_toLower (c : Char) :
    c.toLower.toNat = if 65 ≤ c.toNat ∧ c.toNat ≤ 90 then c.toNat + 32 else c.toNat := by
  have hcapital : (c.val ≥ 'A'.val ∧ c.val ≤ 'Z'.val) ↔ 65 ≤ c.toNat ∧ c.toNat ≤ 90 :=
    and_congr UInt32.le_iff_toNat_le UInt32.le_iff_toNat_le
  unfold Char.toLower
  split
  · next h =>
    have hhigh := (hcapital.1 h).2
    rw [if_pos (hcapital.1 h)]
    show (c.val + ('a'.val - 'A'.val)).toNat = c.toNat + 32
    rw [UInt32.toNat_add, show ('a'.val - 'A'.val).toNat = 32 from rfl, Char.toNat_val]
    omega
  · next h => rw [if_neg (mt hcapital.2 h)]

theorem toNat_toUpper (c : Char) :
    c.toUpper.toNat = if 97 ≤ c.toNat ∧ c.toNat ≤ 122 then c.toNat - 32 else c.toNat := by
  have hsmall : ('a'.val ≤ c.val ∧ c.val ≤ 'z'.val) ↔ 97 ≤ c.toNat ∧ c.toNat ≤ 122 :=
    and_congr UInt32.le_iff_toNat_le UInt32.le_iff_toNat_le
  unfold Char.toUpper
  split
  · next h =>
    have hbounds := hsmall.1 h
    rw [if_pos hbounds]
    show (c.val + ('A'.val - 'a'.val)).toNat = c.toNat - 32
    rw [UInt32.toNat_add, show ('A'.val - 'a'.val).toNat = 2 ^ 32 - 32 from rfl, Char.toNat_val]
    omega
  · next h => rw [if_neg (mt hsmall.2 h)]

theorem toLower_toUpper {c : Char} (hc : ¬ (65 ≤ c.toNat ∧ c.toNat ≤ 90)) :
    c.toUpper.toLower = c := by
  have hupper := toNat_toUpper c
  rw [← Char.toNat_inj, toNat_toLower]
  split <;> split at hupper <;> omega

theorem eq_of_toLower_eq {c d : Char} (hd : d.val < 'a'.val) (h : Char.toLower c = d) : c = d := by
  have hd : d.toNat < 97 := UInt32.lt_iff_toNat_lt.1 hd
  have hlower := toNat_toLower c
  rw [h] at hlower
  rw [← Char.toNat_inj]
  split at hlower <;> omega

theorem isBlankChar_toLower (c : Char) : isBlankChar c.toLower = isBlankChar c := by
  have hlower := toNat_toLower c
  split at hlower
  · -- no letter is blank, whatever its case
    rw [isBlankChar_eq_false_of_between (by omega) (by omega),
      isBlankChar_eq_false_of_between (by omega) (by omega)]
  · rw [Char.toNat_inj.1 hlower]

theorem toLower_isPrefix {a b : Text} (h : a <+: b) : toLower a <+: toLower b := h.map Char.toLower

theorem toLower_mem {c : Char} {t : Text} (h : c ∈ t) : c.toLower ∈ toLower t :=
  List.mem_map_of_mem h

/-- A text is told apart from the same one with something in front of it. -/
theorem sameLetters_append (a t : Text) : sameLetters t (a ++ t) = a.isEmpty := by
  rw [Bool.eq_iff_iff, sameLetters_iff, List.isEmpty_iff]
  constructor
  · intro h
    have hlength := congrArg List.length h
    simp only [toLower, List.length_map, List.length_append] at hlength
    exact List.length_eq_zero_iff.1 (by omega)
  · rintro rfl
    rfl

end PropertyConfig.Text
