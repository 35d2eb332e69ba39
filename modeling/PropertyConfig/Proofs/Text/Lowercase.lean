import PropertyConfig.Proofs.Text.Letters
import PropertyConfig.Text.Lowercase.Basic

/-!
# Lower case of plain letters

Of the characters up to U+007F only the 26 capitals have another form in lower case, and none of
them has two (`char_of_ascii`). So a text of such characters, none of them a capital, comes back
when it is put in upper case and then in lower case (`convert_toUpper`).
-/

namespace PropertyConfig.Text.Lowercase

/-- The capitals are the first run of the table, and all others lie behind U+007F. -/
theorem char_of_ascii {c : Char} (hc : c.toNat < 0x80) : char c = [c.toLower] := by
  have hruns : runs = ⟨0x41, 0x5A, 1, 32⟩ :: runs.tail := rfl
  have hbeyond : runs.tail.all fun r => 0x80 ≤ r.first := by decide +kernel
  have htail : runs.tail.find? (·.contains c) = none := by
    rw [List.find?_eq_none]
    intro r hr
    have hfirst := of_decide_eq_true (List.all_eq_true.1 hbeyond r hr)
    simp only [Run.contains, Bool.and_eq_true, decide_eq_true_eq]
    omega
  have hdot : c ≠ 'İ' := by
    rintro rfl
    exact absurd hc (by decide)
  have hlower := toNat_toLower c
  rw [char, if_neg hdot, hruns, List.find?_cons, htail]
  split at hlower
  · next hcapital =>
    have hcontains : Run.contains ⟨0x41, 0x5A, 1, 32⟩ c = true := by
      simp [Run.contains, hcapital, Nat.mod_one]
    have hshift : ((c.toNat : Int) + 32).toNat = c.toNat + 32 := by omega
    rw [← Char.ofNat_toNat c.toLower, hlower]
    simp [hcontains, hshift]
  · next hcapital =>
    have hcontains : Run.contains ⟨0x41, 0x5A, 1, 32⟩ c = false := by
      simp only [Run.contains, Bool.and_eq_false_iff, decide_eq_false_iff_not]
      omega
    rw [Char.toNat_inj.1 hlower]
    simp [hcontains]

theorem convertAfter_of_ascii {t : Text} (ht : ∀ c ∈ t, c.toNat < 0x80) (inWord : Bool) :
    convertAfter inWord t = toLower t := by
  induction t generalizing inWord with
  | nil => rfl
  | cons c t ih =>
    obtain ⟨hc, ht⟩ := List.forall_mem_cons.1 ht
    have hsigma : c ≠ 'Σ' := by
      rintro rfl
      exact absurd hc (by decide)
    simp only [convertAfter, if_neg hsigma, char_of_ascii hc, ih ht]
    rfl

theorem convert_toUpper {t : Text} (ht : ∀ c ∈ t, c.toNat < 0x80)
    (hsmall : ∀ c ∈ t, c.isUpper = false) : convert (toUpper t) = t := by
  have hascii : ∀ c ∈ toUpper t, c.toNat < 0x80 := by
    intro c hc
    obtain ⟨d, hd, rfl⟩ := List.mem_map.1 hc
    have hd := ht d hd
    rw [toNat_toUpper]
    split <;> omega
  have hback : ∀ c ∈ t, c.toUpper.toLower = c := by
    intro c hc
    refine toLower_toUpper fun hcapital => ?_
    have hbounds : 'A'.val ≤ c.val ∧ c.val ≤ 'Z'.val :=
      ⟨UInt32.le_iff_toNat_le.2 hcapital.1, UInt32.le_iff_toNat_le.2 hcapital.2⟩
    have hupper : c.isUpper = true := decide_eq_true hbounds
    rw [hsmall c hc] at hupper
    cases hupper
  rw [convert, convertAfter_of_ascii hascii, toLower, toUpper, List.map_map]
  exact (List.map_congr_left hback).trans (List.map_id t)

end PropertyConfig.Text.Lowercase
