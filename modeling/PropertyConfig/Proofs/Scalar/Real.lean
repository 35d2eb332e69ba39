import PropertyConfig.Proofs.Number.Literal
import PropertyConfig.Scalar.Real

/-!
# Reading floating-point numbers

The literal in front of a text, without the blanks at its ends, counts. Strictly it has to be all of
the text, so the texts that are read strictly are the literals. Main statement:
`read?_longest_literal`.
-/

namespace PropertyConfig.Real

theorem read?_strict_eq_some_iff {t : Text} {v : Double} :
    read? true t = some v ↔
      ∃ l : Literal, l.IsFormed ∧ l.written = Text.trim t ∧ l.round binary64 = v := by
  unfold read?
  constructor
  · intro h
    split at h
    · cases h
    · next l rest hscan =>
      obtain ⟨hl, htext⟩ := Literal.scan?_eq_some hscan
      by_cases hrest : rest = []
      · rw [if_neg (by simp [hrest])] at h
        refine ⟨l, hl, ?_, Option.some.inj h⟩
        rw [htext, hrest, List.append_nil]
      · rw [if_pos ⟨rfl, hrest⟩] at h
        cases h
  · rintro ⟨l, hl, htext, rfl⟩
    rw [← htext, hl.scan?_written]
    exact if_neg (by simp)

theorem read?_lenient_eq_some_iff {t : Text} {v : Double} :
    read? false t = some v ↔
      ∃ l rest, Literal.scan? (Text.trim t) = some (l, rest) ∧ l.round binary64 = v := by
  unfold read?
  cases Literal.scan? (Text.trim t) with
  | none => simp
  | some found =>
    obtain ⟨l, rest⟩ := found
    constructor
    · rintro ⟨⟩
      exact ⟨l, rest, rfl, rfl⟩
    · rintro ⟨_, _, ⟨⟩, rfl⟩
      rfl

/-- **Literals of floating-point numbers.** What the scanner finds in a text is the longest literal
in front of it, and it finds nothing exactly if no prefix is a literal. So a text is read strictly
as a number exactly if, without the blanks at its ends, it is a literal of this number; and where
more may follow, it is read as the same number then. -/
theorem read?_longest_literal (t : Text) :
    (∀ p, Text.IsLongestPrefix IsLiteral t p ↔ Literal.front t = p ∧ p ≠ []) ∧
    (Literal.front t = [] ↔ ∀ p, p <+: t → p ≠ [] → ¬ IsLiteral p) ∧
    (∀ v, read? true t = some v ↔
      ∃ l : Literal, l.IsFormed ∧ l.written = Text.trim t ∧ l.round binary64 = v) ∧
    ∀ v, read? true t = some v → read? false t = some v := by
  refine ⟨fun p => Literal.isLongestPrefix_iff_front, Literal.front_eq_nil_iff,
    fun v => read?_strict_eq_some_iff, fun v hv => ?_⟩
  obtain ⟨l, hl, htext, hvalue⟩ := read?_strict_eq_some_iff.1 hv
  exact read?_lenient_eq_some_iff.2 ⟨l, [], by rw [← htext, hl.scan?_written], hvalue⟩

/-- A marker with a sign, but without digits behind it, is not counted in. What stands in front of
it is read in both ways. -/
theorem read?_longest_literal_marker :
    Text.IsLongestPrefix IsLiteral "-2.e+x".toList "-2.".toList ∧
      ∃ v, read? true "-2.".toList = some v ∧ read? false "-2.".toList = some v := by
  have hform : Literal.IsFormed ⟨['-'], ['2'], some [], none⟩ :=
    ⟨by simp [signs], by simp, by simp, .inl (by simp), by simp⟩
  have hstrict := ((read?_longest_literal "-2.".toList).2.2.1 _).2 ⟨_, hform, by decide, rfl⟩
  exact ⟨((read?_longest_literal "-2.e+x".toList).1 _).2 ⟨by decide, by decide⟩,
    _, hstrict, (read?_longest_literal "-2.".toList).2.2.2 _ hstrict⟩

end PropertyConfig.Real
