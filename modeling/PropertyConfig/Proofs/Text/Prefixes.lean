import Mathlib.Data.List.Infix
import PropertyConfig.Text.Basic

/-!
# Prefixes

Readers that stop before the end of a text are compared with the longest prefix of the text that is
of the form they read. There is at most one (`IsLongestPrefix.unique`). What a text starts with is
looked for by `after?`; it does not go on behind a character that it does not have
(`isPrefix_of_isPrefix_append`).
-/

namespace PropertyConfig.Text

/-- Of the prefixes of a text with some property, `p` is the longest one. -/
structure IsLongestPrefix (P : Text → Prop) (t p : Text) : Prop where
  isPrefix : p <+: t
  holds : P p
  length_le : ∀ q, q <+: t → P q → q.length ≤ p.length

theorem IsLongestPrefix.unique {P : Text → Prop} {t p q : Text} (hp : IsLongestPrefix P t p)
    (hq : IsLongestPrefix P t q) : p = q := by
  have hprefix : p <+: q :=
    List.prefix_of_prefix_length_le hp.isPrefix hq.isPrefix (hq.length_le p hp.isPrefix hp.holds)
  exact hprefix.eq_of_length_le (hp.length_le q hq.isPrefix hq.holds)

/-! ## Looking at the front of a text -/

theorem after?_append (lead rest : Text) : after? lead (lead ++ rest) = some rest :=
  after?_eq_some_iff.2 rfl

theorem after?_eq_none_iff {lead t : Text} : after? lead t = none ↔ ¬ lead <+: t := by
  constructor
  · rintro h ⟨rest, rfl⟩
    rw [after?_append] at h
    cases h
  · intro h
    rw [Option.eq_none_iff_forall_ne_some]
    exact fun rest hrest => h ⟨rest, (after?_eq_some_iff.1 hrest).symm⟩

/-- What a text starts with ends before the first character that does not occur in it. -/
theorem isPrefix_of_isPrefix_append {a b rest : Text} (h : a <+: b ++ rest)
    (hrest : ∀ c ∈ rest.head?, c ∉ a) : a <+: b := by
  rcases List.prefix_or_prefix_of_prefix h (List.prefix_append b rest) with hab | ⟨u, rfl⟩
  · exact hab
  · cases u with
    | nil => simp
    | cons c u =>
      obtain ⟨v, rfl⟩ := (List.prefix_append_right_inj b).1 h
      exact absurd (by simp) (hrest c rfl)

end PropertyConfig.Text
