import PropertyConfig.Proofs.Scalar.Integer
import PropertyConfig.Proofs.Text.Prefixes

/-!
# Integers in front of a text

Where more may follow, the reader takes the sign and the mark off that it finds, and counts the
digits behind them. This is the longest prefix that spells an integer: any other one has the same
sign and the same mark and fewer digits, or it is the `0` of the mark
(`Divides.spelling_cases`). So a mark without digits makes the difference: the `0` in front of it is
an integer, but the reader has left it behind. Main statement: `read?_lenient_iff`.
-/

namespace PropertyConfig.Integer

/-- The text spells an integer. -/
def IsSpelled (t : Text) : Prop := ∃ s : Spelling, s.text = t

/-- The text has a mark of base sixteen in front, behind a sign or none, but no digits behind it. -/
def HasBareMark (t : Text) : Prop :=
  ∃ sign ∈ signs, ∃ mark ∈ marks, mark ≠ [] ∧
    ∃ rest, t = sign ++ (mark ++ rest) ∧ ∀ c ∈ rest.head?, isHexDigit c = false

/-- The number zero behind a sign. -/
def Spelling.zero (sign : Text) (hsign : sign ∈ signs) : Spelling where
  sign := sign
  mark := []
  digits := ['0']
  sign_mem := hsign
  mark_mem := nil_mem_marks
  digits_ne_nil := List.cons_ne_nil _ _
  isDigitIn_of_mem := List.forall_mem_singleton.2 rfl

theorem Spelling.value_zero {sign : Text} (hsign : sign ∈ signs) : (zero sign hsign).value = 0 := by
  rw [value]
  split <;> rfl

theorem digitsOf_eq_nil_iff {mark rest : Text} (hmark : mark ≠ []) :
    digitsOf mark rest = [] ↔ ∀ c ∈ rest.head?, isHexDigit c = false := by
  rw [digitsOf, baseOf_of_marked hmark]
  cases rest with
  | nil => simp
  | cons c rest => simp [List.takeWhile_cons, isDigitIn]

/-- Behind its `0`, a mark has a letter that is no digit. -/
theorem exists_of_marked {mark : Text} (hmark : mark ∈ marks) (hne : mark ≠ []) :
    ∃ x, mark = ['0', x] ∧ isDigitIn (baseOf []) x = false := by
  simp only [marks, List.mem_cons, List.not_mem_nil, or_false] at hmark
  rcases hmark with rfl | rfl | rfl
  · exact absurd rfl hne
  · exact ⟨'x', rfl, rfl⟩
  · exact ⟨'X', rfl, rfl⟩

namespace Divides

variable {t sign mark rest : Text}

/-- A text is taken apart in one way. -/
theorem unique (h : Divides t sign mark rest) {sign' mark' rest' : Text}
    (h' : Divides t sign' mark' rest') : sign = sign' ∧ mark = mark' ∧ rest = rest' := by
  obtain ⟨rfl, hunsigned⟩ := Prod.mk.inj (h.splitSign_eq.symm.trans h'.splitSign_eq)
  have hbase := h.splitBase_eq
  rw [hunsigned, h'.splitBase_eq] at hbase
  obtain ⟨-, rfl⟩ := Prod.mk.inj hbase
  exact ⟨rfl, List.append_cancel_right hunsigned, rfl⟩

theorem of_marked (htext : t = sign ++ (mark ++ rest)) (hsign : sign ∈ signs)
    (hmark : mark ∈ marks) (hne : mark ≠ []) : Divides t sign mark rest where
  eq_append := htext
  sign_mem := hsign
  mark_mem := hmark
  splitSign_eq := by
    obtain ⟨x, rfl, -⟩ := exists_of_marked hmark hne
    rw [htext]
    exact splitSign_append hsign (by simp [isHexDigit])
  splitBase_eq := splitBase_of_marked hmark hne rest

theorem hasBareMark_iff (h : Divides t sign mark rest) :
    HasBareMark t ↔ mark ≠ [] ∧ digitsOf mark rest = [] := by
  constructor
  · rintro ⟨sign', hsign, mark', hmark, hne, rest', htext, hrest⟩
    obtain ⟨rfl, rfl, rfl⟩ := h.unique (of_marked htext hsign hmark hne)
    exact ⟨hne, (digitsOf_eq_nil_iff hne).2 hrest⟩
  · rintro ⟨hne, hrest⟩
    exact ⟨sign, h.sign_mem, mark, h.mark_mem, hne, rest, h.eq_append,
      (digitsOf_eq_nil_iff hne).1 hrest⟩

/-- The digits of a spelling that are in front of the rest are counted. -/
theorem prefix_digitsOf (s : Spelling) (behind : Text) :
    s.digits <+: digitsOf s.mark (s.digits ++ behind) := by
  rw [digitsOf, List.takeWhile_append_of_pos s.isDigitIn_of_mem]
  exact List.prefix_append _ _

/-- An integer that is spelled in front of the text has the sign and the mark that the reader finds,
and digits among those that it counts, or it is the `0` of the mark. -/
theorem spelling_cases (h : Divides t sign mark rest) {s : Spelling} (hs : s.text <+: t) :
    s.sign = sign ∧ (s.mark = mark ∧ s.digits <+: digitsOf mark rest ∨
      mark ≠ [] ∧ s.mark = [] ∧ s.digits = ['0']) := by
  obtain ⟨behind, hbehind⟩ := hs
  have htext : t = s.sign ++ (s.mark ++ (s.digits ++ behind)) := by
    rw [← hbehind, Spelling.text, List.append_assoc, List.append_assoc]
  have hsplit := splitSign_append s.sign_mem (s.isHexDigit_of_head behind)
  rw [← htext, h.splitSign_eq] at hsplit
  obtain ⟨hsign, hunsigned⟩ := Prod.mk.inj hsplit
  refine ⟨hsign.symm, ?_⟩
  have hdigits := prefix_digitsOf s behind
  by_cases hmark : s.mark = []
  · rw [hmark, List.nil_append] at hunsigned
    by_cases hfound : mark = []
    · rw [hfound, List.nil_append] at hunsigned
      rw [hmark] at hdigits
      exact .inl ⟨hmark.trans hfound.symm, by rwa [hfound, hunsigned]⟩
    · -- digits end behind the `0` of the mark
      obtain ⟨x, rfl, hx⟩ := exists_of_marked h.mark_mem hfound
      obtain ⟨d, ds, hs⟩ := List.exists_cons_of_ne_nil s.digits_ne_nil
      rw [hs] at hunsigned
      obtain ⟨rfl, hbehind⟩ := List.cons.inj hunsigned
      cases ds with
      | nil => exact .inr ⟨hfound, hmark, hs⟩
      | cons e ds =>
        obtain ⟨rfl, -⟩ := List.cons.inj hbehind
        have hdigit := s.isDigitIn_of_mem x (by simp [hs])
        rw [hmark, hx] at hdigit
        cases hdigit
  · -- the reader finds the same mark
    have hbase := h.splitBase_eq
    rw [hunsigned, splitBase_of_marked s.mark_mem hmark] at hbase
    obtain ⟨-, rfl⟩ := Prod.mk.inj hbase
    obtain rfl := List.append_cancel_right hunsigned
    exact .inl ⟨rfl, hdigits⟩

/-- What the reader counts is the longest prefix that spells an integer. -/
theorem isLongestPrefix (h : Divides t sign mark rest) (hne : digitsOf mark rest ≠ []) :
    Text.IsLongestPrefix IsSpelled t (h.spelling hne).text where
  isPrefix := by
    have hcounted : sign ++ (mark ++ digitsOf mark rest) <+: t := by
      rw [h.eq_append]
      exact (List.prefix_append_right_inj _).2
        ((List.prefix_append_right_inj _).2 (List.takeWhile_prefix _))
    exact hcounted
  holds := ⟨h.spelling hne, rfl⟩
  length_le := by
    rintro _ hprefix ⟨s, rfl⟩
    have hpos : 0 < (digitsOf mark rest).length := List.length_pos_iff.2 hne
    obtain ⟨hsign, ⟨hmark, hdigits⟩ | ⟨-, hmark, hdigits⟩⟩ := h.spelling_cases hprefix
    · have hlength := hdigits.length_le
      simp only [Spelling.text, spelling, hsign, hmark, List.length_append]
      omega
    · simp only [Spelling.text, spelling, hsign, hmark, hdigits, List.length_append,
        List.length_nil, List.length_singleton]
      omega

/-- If a mark has no digits behind it, this is its `0`. -/
theorem isLongestPrefix_zero (h : Divides t sign mark rest) (hmark : mark ≠ [])
    (hnil : digitsOf mark rest = []) :
    Text.IsLongestPrefix IsSpelled t (Spelling.zero sign h.sign_mem).text where
  isPrefix := by
    obtain ⟨x, hx, -⟩ := exists_of_marked h.mark_mem hmark
    have hzero : sign ++ ['0'] <+: t := by
      rw [h.eq_append, hx]
      exact (List.prefix_append_right_inj _).2 ⟨x :: rest, rfl⟩
    exact hzero
  holds := ⟨_, rfl⟩
  length_le := by
    rintro _ hprefix ⟨s, rfl⟩
    obtain ⟨hsign, ⟨-, hdigits⟩ | ⟨-, hzero, hdigits⟩⟩ := h.spelling_cases hprefix
    · rw [hnil, List.prefix_nil] at hdigits
      exact absurd hdigits s.digits_ne_nil
    · simp [Spelling.text, Spelling.zero, hsign, hzero, hdigits]

/-- And without a mark no prefix spells an integer. -/
theorem not_isSpelled (h : Divides t sign mark rest) (hmark : mark = [])
    (hnil : digitsOf mark rest = []) {p : Text} (hp : p <+: t) : ¬ IsSpelled p := by
  rintro ⟨s, rfl⟩
  obtain ⟨-, ⟨-, hdigits⟩ | ⟨hmarked, -⟩⟩ := h.spelling_cases hp
  · rw [hnil, List.prefix_nil] at hdigits
    exact s.digits_ne_nil hdigits
  · exact hmarked hmark

end Divides

/-- **Reading integers where more may follow.** Of a text, without the blanks at its ends, the
longest prefix counts that spells an integer, if there is one: the text is read as this prefix is
read strictly, unless there is a mark without digits in front. Such a text is not read, although
the `0` of the mark is. Without such a prefix, nothing is read. -/
theorem read?_lenient_iff (w : Width) (t : Text) :
    (∀ p, Text.IsLongestPrefix IsSpelled (Text.trim t) p →
      (read? w false t = read? w true p ↔ ¬ HasBareMark (Text.trim t))) ∧
    ((¬ ∃ p, Text.IsLongestPrefix IsSpelled (Text.trim t) p) → read? w false t = none) ∧
    (HasBareMark (Text.trim t) → read? w false t = none ∧
      ∃ p, Text.IsLongestPrefix IsSpelled (Text.trim t) p ∧ read? w true p = some 0) := by
  obtain ⟨sign, mark, rest, h⟩ := exists_divides (Text.trim t)
  by_cases hnil : digitsOf mark rest = []
  · have hnone : read? w false t = none := by
      rw [read?, h.denoted?_eq_none (.inl hnil)]
      rfl
    by_cases hmark : mark = []
    · have hbare : ¬ HasBareMark (Text.trim t) := fun hbare => (h.hasBareMark_iff.1 hbare).1 hmark
      refine ⟨fun p hp => ?_, fun _ => hnone, fun hb => absurd hb hbare⟩
      exact absurd hp.holds (h.not_isSpelled hmark hnil hp.isPrefix)
    · have hlongest := h.isLongestPrefix_zero hmark hnil
      have hzero : read? w true (Spelling.zero sign h.sign_mem).text = some 0 := by
        rw [(Spelling.zero sign h.sign_mem).read?_eq_some_iff (Spelling.trim_text _)]
        exact ⟨Spelling.value_zero h.sign_mem, by cases w <;> decide, by decide⟩
      refine ⟨fun p hp => ?_, fun _ => hnone, fun _ => ⟨hnone, _, hlongest, hzero⟩⟩
      rw [hp.unique hlongest, hzero, hnone]
      exact iff_of_false (by simp) (not_not.2 (h.hasBareMark_iff.2 ⟨hmark, hnil⟩))
  · have hlongest := h.isLongestPrefix hnil
    have hbare : ¬ HasBareMark (Text.trim t) := fun hbare => hnil (h.hasBareMark_iff.1 hbare).2
    have hread : read? w false t = read? w true (h.spelling hnil).text := by
      rw [read?, read?, h.denoted?_eq hnil (by simp),
        (h.spelling hnil).denoted?_eq (Spelling.trim_text _)]
    refine ⟨fun p hp => ?_, fun hno => absurd ⟨_, hlongest⟩ hno, fun hb => absurd hb hbare⟩
    rw [hp.unique hlongest]
    exact iff_of_true hread hbare

/-- Of `-0x1Fg`, `-0x1F` is read. -/
theorem read?_lenient_iff_marked :
    read? .bits32 false "-0x1Fg".toList =
      read? .bits32 true "-0x1F".toList := by
  have h : Divides "-0x1Fg".toList ['-'] "0x".toList "1Fg".toList :=
    .of_marked rfl (by decide) (by decide) (by decide)
  have hne : digitsOf "0x".toList "1Fg".toList ≠ [] := by decide
  exact ((read?_lenient_iff .bits32 "-0x1Fg".toList).1 _
    (h.isLongestPrefix hne)).2 fun hbare => hne (h.hasBareMark_iff.1 hbare).2

/-- Of `0xg`, the prefix `0` is an integer, but nothing is read. -/
theorem not_read?_bare_mark :
    Text.IsLongestPrefix IsSpelled (Text.trim "0xg".toList) ['0'] ∧
      read? .bits32 true ['0'] = some 0 ∧ read? .bits32 false "0xg".toList = none := by
  have h : Divides "0xg".toList [] "0x".toList ['g'] :=
    .of_marked rfl (by decide) (by decide) (by decide)
  exact ⟨h.isLongestPrefix_zero (by decide) (by decide), by decide, by decide⟩

end PropertyConfig.Integer
