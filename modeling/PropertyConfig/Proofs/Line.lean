import PropertyConfig.Line
import PropertyConfig.Proofs.Text.Trimming

/-!
# What lines are read as

The key of a property is not empty and has no leading `%` (`exists_of_read_eq_property`). What is
written as a key, a separator and a value is read so if the line is divided there
(`read_eq_property`).
-/

namespace PropertyConfig.Line

/-- The key and the value that a line assigns. -/
def assigned? : Line → Option (Text × Text)
  | .property key value => some (key, value)
  | .reserved key value => some (key.key, value)
  | _ => none

theorem readDirective?_ne_property {d key value : Text} :
    readDirective? d ≠ some (.property key value) := by
  unfold readDirective? readIf
  intro h
  split at h
  · split at h
    · simp at h
    · split at h <;> simp at h
  · split at h
    · simp at h
    · split at h
      · simp at h
      · simp at h

theorem readReserved_ne_property {d key value other : Text} :
    readReserved d value ≠ .property key other := by
  unfold readReserved
  intro h
  repeat' split at h
  all_goals simp at h

theorem exists_of_read_eq_property {raw key value : Text} (h : read raw = .property key value) :
    ∃ c rest, key = c :: rest ∧ c ≠ '%' := by
  simp only [read] at h
  split at h
  · simp at h
  · cases hd : readDirective? (Text.trim raw) with
    | some l =>
      rw [hd, Option.getD_some] at h
      exact absurd (h ▸ hd) readDirective?_ne_property
    | none =>
      rw [hd, Option.getD_none, readAssignment] at h
      simp only [] at h
      split at h
      · simp at h
      · rename_i c rest hkey
        split at h
        · exact absurd h readReserved_ne_property
        · rename_i hc
          simp only [property.injEq] at h
          exact ⟨c, rest, h.1.symm.trans hkey, hc⟩

theorem read_eq_ignored {raw : Text} (h : isComment (Text.trim raw)) : read raw = .ignored := by
  simp [read, h]

/-! ## Written assignments -/

theorem splitPair_equals {key : Text} (hkey : '=' ∉ key) (value : Text) :
    splitPair (key ++ '=' :: value) = (Text.trim key, value) := by
  have hcut : Text.cutAt? (· = '=') (key ++ '=' :: value) = some (key, '=', value) :=
    Text.cutAt?_append (fun c hc => by simpa using fun heq : c = '=' => hkey (heq ▸ hc)) (by simp)
      value
  rw [splitPair, hcut]

/-- Only where there is no `=` at all, a key ends at a `:`. -/
theorem splitPair_colon {key : Text} (hkey : ':' ∉ key) (hkey' : '=' ∉ key) {value : Text}
    (hvalue : '=' ∉ value) : splitPair (key ++ ':' :: value) = (Text.trim key, value) := by
  have hnone : Text.cutAt? (· = '=') (key ++ ':' :: value) = none := by
    refine Text.cutAt?_eq_none fun c hc => ?_
    rw [decide_eq_false_iff_not]
    rintro rfl
    simp [hkey', hvalue] at hc
  have hcut : Text.cutAt? (· = ':') (key ++ ':' :: value) = some (key, ':', value) :=
    Text.cutAt?_append (fun c hc => by simpa using fun heq : c = ':' => hkey (heq ▸ hc)) (by simp)
      value
  rw [splitPair, hnone, hcut]

theorem readDirective?_eq_none {c : Char} (hc : c ≠ '%') (rest : Text) :
    readDirective? (c :: rest) = none := by
  simp [readDirective?, ifWord, otherwiseWord, endIfWord, logWord, Text.after?, Ne.symm hc]

/-- A trimmed line that starts neither a comment nor a directive is a property. -/
theorem read_eq_property {c : Char} {rest key value : Text}
    (htrim : Text.trim (c :: rest) = c :: rest) (hc : c ≠ '#' ∧ c ≠ '!' ∧ c ≠ '%')
    (hsplit : splitPair (c :: rest) = (c :: key, value)) :
    read (c :: rest) = .property (c :: key) value := by
  obtain ⟨hhash, hmark, hpercent⟩ := hc
  have hcomment : isComment (c :: rest) = false := by simp [isComment, hhash, hmark]
  simp [read, htrim, hcomment, readDirective?_eq_none hpercent, readAssignment, hsplit, hpercent]

end PropertyConfig.Line
