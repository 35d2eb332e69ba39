import Mathlib.Data.List.DropRight
import PropertyConfig.Text.Blank
import PropertyConfig.Text.Lines

/-!
# Trimmed and divided texts

A text is trimmed exactly if there is no blank at either end (`trim_eq_self_iff`), and trimming
leaves a trimmed text (`trim_trim`), whatever blanks there are around it (`trim_surrounded`). A text
is cut at the first place where the mark occurs, so a part without the mark comes back as it was
(`cut?_append`). Texts that are lines come back as the lines of the text that has them one below the
other (`lines_flatMap`). A text that is divided at a character comes back when its pieces are joined
(`join_splitAt`).
-/

namespace PropertyConfig.Text

/-- No blank stands at the front. -/
def startsBare (t : Text) : Bool := t.head?.all (!isBlankChar ·)

/-- No blank stands at the end. -/
def endsBare (t : Text) : Bool := t.getLast?.all (!isBlankChar ·)

theorem trimEnd_eq_rdropWhile (t : Text) : trimEnd t = t.rdropWhile isBlankChar := rfl

theorem trimStart_eq_self_iff {t : Text} : trimStart t = t ↔ startsBare t := by
  cases t with
  | nil => simp [trimStart, startsBare]
  | cons c t =>
    rw [trimStart, List.dropWhile_eq_self_iff]
    simp [startsBare]

theorem trimEnd_eq_self_iff {t : Text} : trimEnd t = t ↔ endsBare t := by
  rw [trimEnd_eq_rdropWhile, List.rdropWhile_eq_self_iff, endsBare]
  by_cases h : t = []
  · simp [h]
  · simp [h, List.getLast?_eq_some_getLast]

theorem startsBare_trimStart (t : Text) : startsBare (trimStart t) := by
  rw [← trimStart_eq_self_iff, trimStart, trimStart, List.dropWhile_idempotent]

theorem endsBare_trimEnd (t : Text) : endsBare (trimEnd t) := by
  rw [← trimEnd_eq_self_iff, trimEnd_eq_rdropWhile, trimEnd_eq_rdropWhile,
    List.rdropWhile_idempotent]

/-- Blanks at the end do not change the front. -/
theorem startsBare_trimEnd {t : Text} (h : startsBare t) : startsBare (trimEnd t) := by
  obtain ⟨rest, hrest⟩ : trimEnd t <+: t := List.rdropWhile_prefix _ t
  cases ht : trimEnd t with
  | nil => rfl
  | cons c u =>
    rw [ht] at hrest
    rw [← hrest] at h
    simpa [startsBare] using h

theorem trim_eq_self_iff {t : Text} : trim t = t ↔ startsBare t ∧ endsBare t := by
  constructor
  · intro h
    have hstart : startsBare (trim t) := startsBare_trimEnd (startsBare_trimStart t)
    have hend : endsBare (trim t) := endsBare_trimEnd (trimStart t)
    rw [h] at hstart hend
    exact ⟨hstart, hend⟩
  · rintro ⟨hstart, hend⟩
    rw [trim, trimStart_eq_self_iff.2 hstart, trimEnd_eq_self_iff.2 hend]

@[simp] theorem trim_nil : trim [] = [] := rfl

theorem trim_trim (t : Text) : trim (trim t) = trim t :=
  trim_eq_self_iff.2 ⟨startsBare_trimEnd (startsBare_trimStart t), endsBare_trimEnd _⟩

theorem trim_eq_self_of_plain {t : Text} (h : ∀ c ∈ t, isBlankChar c = false) : trim t = t := by
  refine trim_eq_self_iff.2 ⟨?_, ?_⟩
  · rw [startsBare, Option.all_eq_true]
    exact fun c hc => by simpa using h c (List.mem_of_mem_head? hc)
  · rw [endsBare, Option.all_eq_true]
    exact fun c hc => by simpa using h c (List.mem_of_getLast? hc)

/-- Dropping characters at the end stops at one that is not dropped. -/
theorem rdropWhile_append_cons {p : Char → Bool} {c : Char} (h : p c = false) (a b : Text) :
    (a ++ c :: b).rdropWhile p = a ++ c :: b.rdropWhile p := by
  induction b using List.reverseRecOn with
  | nil => simp [List.rdropWhile_concat_neg, h]
  | append_singleton b d ih =>
    rw [← List.cons_append, ← List.append_assoc, List.rdropWhile_concat, List.rdropWhile_concat, ih]
    split <;> simp

theorem trimEnd_append_cons {c : Char} (h : isBlankChar c = false) (a b : Text) :
    trimEnd (a ++ c :: b) = a ++ c :: trimEnd b :=
  rdropWhile_append_cons h a b

theorem startsBare_append {t : Text} (hne : t ≠ []) (ht : startsBare t) (u : Text) :
    startsBare (t ++ u) := by
  rwa [startsBare, List.head?_append_of_ne_nil _ hne]

theorem endsBare_append {t : Text} (hne : t ≠ []) (ht : endsBare t) (u : Text) :
    endsBare (u ++ t) := by
  rw [endsBare, List.getLast?_append_of_ne_nil _ hne]
  exact ht

theorem endsBare_append_cons {s : Char} (hs : isBlankChar s = false) {b : Text} (hb : endsBare b)
    (a : Text) : endsBare (a ++ s :: b) := by
  refine endsBare_append (List.cons_ne_nil _ _) ?_ a
  cases b with
  | nil => simp [endsBare, hs]
  | cons c b => exact endsBare_append (List.cons_ne_nil _ _) hb [s]

/-- Behind a character that is no blank, only the end is trimmed. -/
theorem trim_append_cons_eq {a : Text} {s : Char} (hne : a ≠ []) (ha : startsBare a)
    (hs : isBlankChar s = false) (b : Text) : trim (a ++ s :: b) = a ++ s :: trimEnd b := by
  rw [trim, trimStart_eq_self_iff.2 (startsBare_append hne ha _), trimEnd_append_cons hs]

/-- There is nothing to trim where a text without blanks at its ends is divided by no blank. -/
theorem trim_append_cons {a b : Text} {s : Char} (hne : a ≠ []) (ha : startsBare a)
    (hs : isBlankChar s = false) (hb : endsBare b) : trim (a ++ s :: b) = a ++ s :: b := by
  rw [trim_append_cons_eq hne ha hs, trimEnd_eq_self_iff.2 hb]

theorem trim_sublist (t : Text) : (trim t).Sublist t :=
  (List.rdropWhile_prefix isBlankChar _).sublist.trans (List.dropWhile_sublist _)

/-! ## Blanks around a text -/

theorem isBlank_nil : isBlank [] := rfl

theorem trimStart_append_of_isBlank {a : Text} (ha : isBlank a) (t : Text) :
    trimStart (a ++ t) = trimStart t :=
  List.dropWhile_append_of_pos (List.all_eq_true.1 ha)

theorem trimEnd_append_of_isBlank {b : Text} (hb : isBlank b) (t : Text) :
    trimEnd (t ++ b) = trimEnd t := by
  have hb : ∀ c ∈ b.reverse, isBlankChar c := fun c hc =>
    List.all_eq_true.1 hb c (List.mem_reverse.1 hc)
  rw [trimEnd, List.reverse_append, List.dropWhile_append_of_pos hb, trimEnd]

theorem trimStart_of_isBlank {t : Text} (h : isBlank t) : trimStart t = [] :=
  List.dropWhile_eq_nil_iff.2 (List.all_eq_true.1 h)

theorem trim_append_of_isBlank {b : Text} (hb : isBlank b) (t : Text) :
    trim (t ++ b) = trim t := by
  rw [trim, trim, trimStart, trimStart, List.dropWhile_append]
  split
  · next hempty =>
    -- nothing but blanks is left of the whole
    rw [List.isEmpty_iff.1 hempty, ← trimStart, trimStart_of_isBlank hb]
  · exact trimEnd_append_of_isBlank hb _

theorem trim_append_left_of_isBlank {a : Text} (ha : isBlank a) (t : Text) :
    trim (a ++ t) = trim t := by
  rw [trim, trimStart_append_of_isBlank ha, trim]

theorem trim_surrounded {a b : Text} (ha : isBlank a) (hb : isBlank b) (t : Text) :
    trim (a ++ t ++ b) = trim t := by
  rw [trim_append_of_isBlank hb, trim_append_left_of_isBlank ha]

theorem exists_trimEnd_append (t : Text) : ∃ b, isBlank b ∧ trimEnd t ++ b = t := by
  refine ⟨(t.reverse.takeWhile isBlankChar).reverse, ?_, ?_⟩
  · rw [isBlank, List.all_reverse]
    exact List.all_takeWhile
  · rw [trimEnd, ← List.reverse_append, List.takeWhile_append_dropWhile, List.reverse_reverse]

/-- Something is left exactly where not everything is blank. -/
theorem trimEnd_bne_nil (t : Text) : (trimEnd t != []) = !isBlank t := by
  rw [Bool.eq_iff_iff, bne_iff_ne, Bool.not_eq_true', ← Bool.not_eq_true, not_iff_not, trimEnd,
    List.reverse_eq_nil_iff, List.dropWhile_eq_nil_iff, isBlank, List.all_eq_true]
  simp only [List.mem_reverse]

theorem trim_trimEnd (t : Text) : trim (trimEnd t) = trim t := by
  obtain ⟨b, hb, ht⟩ := exists_trimEnd_append t
  rw [← trim_append_of_isBlank hb, ht]

/-- Behind a text without blanks at its ends, only the end is trimmed. -/
theorem trim_append {a : Text} (hne : a ≠ []) (ha : trim a = a) (b : Text) :
    trim (a ++ b) = a ++ trimEnd b := by
  obtain ⟨hstart, hend⟩ := trim_eq_self_iff.1 ha
  have hfront : startsBare (a ++ b) := startsBare_append hne hstart b
  obtain ⟨u, c, rfl⟩ := (List.eq_nil_or_concat a).resolve_left hne
  have hc : isBlankChar c = false := by simpa [endsBare] using hend
  rw [trim, trimStart_eq_self_iff.2 hfront, List.concat_eq_append, List.append_assoc,
    List.singleton_append, trimEnd_append_cons hc, List.append_assoc, List.singleton_append]

theorem mem_head?_of_mem_head?_trimEnd {t : Text} {c : Char} (h : c ∈ (trimEnd t).head?) :
    c ∈ t.head? := by
  obtain ⟨b, -, ht⟩ := exists_trimEnd_append t
  rw [← ht, List.head?_append, Option.mem_def.1 h]
  rfl

theorem mem_dropWhile_or {p : Char → Bool} {c : Char} {t : Text} (h : c ∈ t) :
    c ∈ t.dropWhile p ∨ p c := by
  rw [← List.takeWhile_append_dropWhile (p := p) (l := t)] at h
  rcases List.mem_append.1 h with h | h
  · exact .inr (List.mem_takeWhile_imp h)
  · exact .inl h

/-- Trimming takes nothing but blanks away. -/
theorem mem_trim_or_isBlankChar {c : Char} {t : Text} (h : c ∈ t) :
    c ∈ trim t ∨ isBlankChar c := by
  rcases mem_dropWhile_or (p := isBlankChar) h with h | h
  · rcases mem_dropWhile_or (p := isBlankChar) (List.mem_reverse.2 h) with h | h
    · exact .inl (List.mem_reverse.2 h)
    · exact .inr h
  · exact .inr h

/-! ## Dividing where a property of characters ends -/

theorem takeWhile_append_of_head {p : Char → Bool} {a b : Text} (ha : ∀ c ∈ a, p c)
    (hb : ∀ c ∈ b.head?, p c = false) : (a ++ b).takeWhile p = a := by
  rw [List.takeWhile_append_of_pos ha]
  cases b with
  | nil => simp
  | cons c b => rw [List.takeWhile_cons_of_neg (by simp [hb c rfl]), List.append_nil]

theorem dropWhile_append_of_head {p : Char → Bool} {a b : Text} (ha : ∀ c ∈ a, p c)
    (hb : ∀ c ∈ b.head?, p c = false) : (a ++ b).dropWhile p = b := by
  rw [List.dropWhile_append_of_pos ha]
  cases b with
  | nil => rfl
  | cons c b => exact List.dropWhile_cons_of_neg (by simp [hb c rfl])

/-! ## Cutting at a single character -/

theorem cut?_append {mark : Char} {a : Text} (h : mark ∉ a) (b : Text) :
    cut? [mark] (a ++ mark :: b) = some (a, b) := by
  induction a with
  | nil => simp [cut?, after?]
  | cons c a ih =>
    simp only [List.mem_cons, not_or] at h
    simp [cut?, after?, h.1, ih h.2]

theorem cut?_eq_none {mark : Char} {t : Text} (h : mark ∉ t) : cut? [mark] t = none := by
  induction t with
  | nil => simp [cut?]
  | cons c t ih =>
    simp only [List.mem_cons, not_or] at h
    simp [cut?, after?, h.1, ih h.2]

theorem cutAt?_append {p : Char → Bool} {a : Text} (ha : ∀ c ∈ a, p c = false) {s : Char}
    (hs : p s) (b : Text) : cutAt? p (a ++ s :: b) = some (a, s, b) := by
  induction a with
  | nil => simp [cutAt?, hs]
  | cons c a ih =>
    have ih := ih fun d hd => ha d (List.mem_cons_of_mem _ hd)
    simp [cutAt?, ha c List.mem_cons_self, ih]

theorem cutAt?_eq_none {p : Char → Bool} {t : Text} (h : ∀ c ∈ t, p c = false) :
    cutAt? p t = none := by
  induction t with
  | nil => rfl
  | cons c t ih =>
    simp [cutAt?, h c List.mem_cons_self, ih fun d hd => h d (List.mem_cons_of_mem _ hd)]

/-! ## Dividing at a character -/

theorem splitAt_ne_nil (s : Char) (t : Text) : splitAt s t ≠ [] := by
  cases t with
  | nil => exact List.cons_ne_nil _ _
  | cons c t =>
    rw [splitAt]
    split
    · exact List.cons_ne_nil _ _
    · split <;> exact List.cons_ne_nil _ _

theorem join_cons_cons (mark : Text) (c : Char) (piece : Text) (rest : List Text) :
    join mark ((c :: piece) :: rest) = c :: join mark (piece :: rest) := by
  cases rest with
  | nil => rfl
  | cons u rest => simp [join]

theorem join_splitAt (s : Char) (t : Text) : join [s] (splitAt s t) = t := by
  induction t with
  | nil => rfl
  | cons c t ih =>
    obtain ⟨piece, rest, hpieces⟩ := List.exists_cons_of_ne_nil (splitAt_ne_nil s t)
    rw [hpieces] at ih
    by_cases hc : c = s
    · simp [splitAt, hpieces, hc, join, ih]
    · simp [splitAt, hpieces, hc, join_cons_cons, ih]

/-! ## Lines -/

/-- A text with no line end in it, and with no half of one behind it. -/
def IsLine (t : Text) : Prop := '\n' ∉ t ∧ t.getLast? ≠ some '\r'

/-- A character that is followed by another one of its line joins that line. -/
theorem lines_cons_cons {c d : Char} (hc : c ≠ '\n') (hd : d ≠ '\n') {t line : Text}
    {rest : List Text} (h : lines (d :: t) = line :: rest) :
    lines (c :: d :: t) = (c :: line) :: rest := by
  rw [lines, h]
  · exact hc
  · intro u _ heq
    exact hd (List.cons.inj heq).1

theorem lines_append {t : Text} (h : t.IsLine) (rest : Text) :
    lines (t ++ '\n' :: rest) = t :: lines rest := by
  induction t with
  | nil => rfl
  | cons c t ih =>
    obtain ⟨hmem, hlast⟩ := h
    obtain ⟨hc, hmem⟩ := not_or.1 (mt List.mem_cons.2 hmem)
    cases t with
    | nil =>
      -- a carriage return would go with the line end
      have hreturn : c ≠ '\r' := fun heq => hlast (by rw [heq]; rfl)
      simp [lines, Ne.symm hc, hreturn]
    | cons d t =>
      have hd : d ≠ '\n' := fun heq => hmem (heq ▸ List.mem_cons_self)
      exact lines_cons_cons (Ne.symm hc) hd (ih ⟨hmem, by simpa using hlast⟩)

theorem lines_flatMap {α : Type} {f : α → Text} {l : List α} (h : ∀ a ∈ l, (f a).IsLine) :
    lines (l.flatMap fun a => f a ++ ['\n']) = l.map f := by
  induction l with
  | nil => rfl
  | cons a l ih =>
    obtain ⟨ha, hl⟩ := List.forall_mem_cons.1 h
    rw [List.flatMap_cons, List.append_assoc, List.singleton_append, lines_append ha, ih hl,
      List.map_cons]

/-- A text without a line end is its only line. -/
theorem lines_eq_singleton {t : Text} (hne : t ≠ []) (h : '\n' ∉ t) : lines t = [t] := by
  induction t with
  | nil => exact absurd rfl hne
  | cons c t ih =>
    obtain ⟨hc, hmem⟩ := not_or.1 (mt List.mem_cons.2 h)
    cases t with
    | nil => simp [lines, Ne.symm hc]
    | cons d t =>
      have hd : d ≠ '\n' := fun heq => hmem (heq ▸ List.mem_cons_self)
      exact lines_cons_cons (Ne.symm hc) hd (ih (List.cons_ne_nil _ _) hmem)

end PropertyConfig.Text
