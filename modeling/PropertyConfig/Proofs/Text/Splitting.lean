import PropertyConfig.Proofs.Text.Prefixes

/-!
# Texts divided at a mark

A mark of several characters can begin in a piece and end in the mark behind it, or begin in the
mark and end in the next piece. Searching from left to right finds the mark behind a piece if it
does not occur in the piece with all but the last character of the mark behind it (`cut?_mark`).
Joined pieces of which this holds come back when the text is divided again (`splitOn_join`).
-/

namespace PropertyConfig.Text

variable {mark : Text}

theorem cut?_eq_none_of_absent {t : Text} (h : ¬ mark <:+: t) : cut? mark t = none := by
  induction t with
  | nil =>
    have hmark : mark ≠ [] := by
      rintro rfl
      exact h List.infix_rfl
    simp [cut?, hmark]
  | cons c t ih =>
    have hhere : after? mark (c :: t) = none := after?_eq_none_iff.2 fun hp => h hp.isInfix
    have hrest : ¬ mark <:+: t := fun hi => h (hi.trans (List.suffix_cons c t).isInfix)
    rw [cut?, hhere, ih hrest]
    rfl

/-- What does not occur in a piece and in the beginning of the mark does not begin in the piece. -/
theorem not_isPrefix_of_absent {c : Char} {a : Text} (h : ¬ mark <:+: c :: a ++ mark.dropLast)
    (b : Text) : ¬ mark <+: c :: a ++ (mark ++ b) := by
  intro hp
  have hfront : c :: a ++ mark.dropLast <+: c :: a ++ (mark ++ b) :=
    (List.prefix_append_right_inj _).2 ((List.dropLast_prefix mark).trans (List.prefix_append _ _))
  have hlength : mark.length ≤ (c :: a ++ mark.dropLast).length := by
    simp only [List.length_append, List.length_cons, List.length_dropLast]
    omega
  exact h (List.prefix_of_prefix_length_le hp hfront hlength).isInfix

theorem cut?_mark (hmark : mark ≠ []) {a : Text} (h : ¬ mark <:+: a ++ mark.dropLast) (b : Text) :
    cut? mark (a ++ (mark ++ b)) = some (a, b) := by
  induction a with
  | nil =>
    obtain ⟨m, rest, rfl⟩ := List.exists_cons_of_ne_nil hmark
    have hhere : after? (m :: rest) (m :: (rest ++ b)) = some b := after?_append (m :: rest) b
    simp only [List.nil_append, List.cons_append, cut?, hhere]
  | cons c a ih =>
    have hhere : after? mark (c :: a ++ (mark ++ b)) = none :=
      after?_eq_none_iff.2 (not_isPrefix_of_absent h b)
    have hrest : ¬ mark <:+: a ++ mark.dropLast := fun hi =>
      h (hi.trans (List.suffix_cons c _).isInfix)
    rw [List.cons_append] at hhere ⊢
    rw [cut?, hhere, ih hrest]
    rfl

theorem splitOn_of_cut?_eq_none {t : Text} (h : cut? mark t = none) : splitOn mark t = [t] := by
  rw [splitOn]
  split
  · rfl
  · next heq => simp [h] at heq

theorem splitOn_of_cut?_eq_some (hmark : mark ≠ []) {t piece rest : Text}
    (h : cut? mark t = some (piece, rest)) : splitOn mark t = piece :: splitOn mark rest := by
  rw [splitOn]
  split
  · next heq => simp [h] at heq
  · next heq =>
    rw [h, Option.some.injEq, Prod.mk.injEq] at heq
    rw [dif_neg hmark, heq.1, heq.2]

/-- Joined pieces come back, if no mark is found before the ones between them. -/
theorem splitOn_join (hmark : mark ≠ []) {pieces : List Text} (hne : pieces ≠ [])
    (h : ∀ piece ∈ pieces, ¬ mark <:+: piece ++ mark.dropLast) :
    splitOn mark (join mark pieces) = pieces := by
  induction pieces with
  | nil => exact absurd rfl hne
  | cons piece pieces ih =>
    obtain ⟨hpiece, hpieces⟩ := List.forall_mem_cons.1 h
    cases pieces with
    | nil =>
      exact splitOn_of_cut?_eq_none (cut?_eq_none_of_absent fun hi =>
        hpiece (hi.trans (List.prefix_append _ _).isInfix))
    | cons next pieces =>
      have hcut : cut? mark (join mark (piece :: next :: pieces)) =
          some (piece, join mark (next :: pieces)) := by
        rw [join, List.append_assoc]
        exact cut?_mark hmark hpiece _
      rw [splitOn_of_cut?_eq_some hmark hcut, ih (List.cons_ne_nil _ _) hpieces]

/-- A doubled character occurs in a text and itself only if it does so in the text, or the text ends
with the character. -/
theorem not_doubled_infix_append {s : Char} {t : Text} (h : ¬ [s, s] <:+: t)
    (hlast : t.getLast? ≠ some s) : ¬ [s, s] <:+: t ++ [s] := by
  rintro ⟨a, b, heq⟩
  rcases List.eq_nil_or_concat b with rfl | ⟨b, c, rfl⟩
  · have ht : t = a ++ [s] := by
      have heq : (a ++ [s]) ++ [s] = t ++ [s] := by simpa using heq
      exact (List.append_cancel_right heq).symm
    exact hlast (by simp [ht])
  · rw [List.concat_eq_append, ← List.append_assoc] at heq
    exact h ⟨a, b, (List.append_inj_left' heq rfl)⟩

end PropertyConfig.Text
