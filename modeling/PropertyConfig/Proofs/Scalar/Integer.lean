import PropertyConfig.Proofs.Number.Digits
import PropertyConfig.Proofs.Text.Trimming
import PropertyConfig.Scalar.Integer

/-!
# Reading integers

An integer is spelled with a sign or none, the mark of base sixteen or none, and digits
(`Spelling`). The reader takes the sign off, then the mark, and goes on for as long as there are
digits (`Divides`). So it reads what is spelled (`Spelling.denoted?_eq`), with one exception: sizes
are limited before the sign is applied, and the least integer of 128 bits is lost. Main statement:
`read?_strict_iff`.
-/

namespace PropertyConfig.Integer

/-- The mark of base sixteen in its two spellings, or none. -/
def marks : List Text := [[], ['0', 'x'], ['0', 'X']]

theorem nil_mem_marks : [] ∈ marks := List.mem_cons_self

/-- The base that a mark stands for. -/
def baseOf (mark : Text) : Nat := if mark = [] then 10 else 16

/-- An integer as it is spelled. -/
@[ext]
structure Spelling where
  sign : Text
  mark : Text
  digits : Text
  sign_mem : sign ∈ signs
  mark_mem : mark ∈ marks
  digits_ne_nil : digits ≠ []
  isDigitIn_of_mem : ∀ c ∈ digits, isDigitIn (baseOf mark) c

namespace Spelling

def text (s : Spelling) : Text := s.sign ++ (s.mark ++ s.digits)

/-- The number without its sign. -/
def size (s : Spelling) : Nat := Nat.ofDigits (baseOf s.mark) (s.digits.map digitValue).reverse

def value (s : Spelling) : Int := if s.sign = ['-'] then -(s.size : Int) else s.size

/-- The decimal spelling of an integer. -/
def ofInt (i : Int) : Spelling where
  sign := if i < 0 then ['-'] else []
  mark := []
  digits := decimalDigits i.natAbs
  sign_mem := by split <;> decide
  mark_mem := nil_mem_marks
  digits_ne_nil := Nat.toDigits_ne_nil
  isDigitIn_of_mem := fun _ hc => isDigit_of_mem_decimalDigits hc

theorem text_ofInt (i : Int) : (ofInt i).text = decimalText i := by
  rw [text, ofInt, decimalText]
  split <;> rfl

theorem value_ofInt (i : Int) : (ofInt i).value = i := by
  have hsize : (ofInt i).size = i.natAbs := by
    rw [size, ← numeral_eq_ofDigits]
    exact numeral_decimalDigits i.natAbs
  rw [value, hsize]
  by_cases hneg : i < 0
  · rw [if_pos (by simp [ofInt, hneg])]
    omega
  · rw [if_neg (by simp [ofInt, hneg])]
    omega

end Spelling

theorem isHexDigit_of_isDigitIn {mark : Text} {c : Char} (h : isDigitIn (baseOf mark) c) :
    isHexDigit c := by
  unfold isDigitIn at h
  split at h
  · exact h
  · exact isHexDigit_of_isDigit h

namespace Spelling

variable (s : Spelling)

theorem isHexDigit_of_head (rest : Text) :
    ∀ c ∈ (s.mark ++ (s.digits ++ rest)).head?, isHexDigit c := by
  have hmarks : ∀ mark ∈ marks, mark ≠ [] → mark.head?.all isHexDigit := by decide
  intro c hc
  by_cases hmark : s.mark = []
  · rw [hmark, List.nil_append, List.head?_append_of_ne_nil _ s.digits_ne_nil] at hc
    exact isHexDigit_of_isDigitIn (s.isDigitIn_of_mem c (List.mem_of_mem_head? hc))
  · rw [List.head?_append_of_ne_nil _ hmark] at hc
    exact (Option.all_eq_true _ _).1 (hmarks s.mark s.mark_mem hmark) c hc

/-- There are no blanks in it. -/
theorem trim_text : Text.trim s.text = s.text := by
  have hsigns : ∀ sign ∈ signs, sign.all (!Text.isBlankChar ·) := by decide
  have hmarks : ∀ mark ∈ marks, mark.all (!Text.isBlankChar ·) := by decide
  refine Text.trim_eq_self_of_plain fun c hc => ?_
  rcases List.mem_append.1 hc with hc | hc
  · simpa using List.all_eq_true.1 (hsigns s.sign s.sign_mem) c hc
  rcases List.mem_append.1 hc with hc | hc
  · simpa using List.all_eq_true.1 (hmarks s.mark s.mark_mem) c hc
  · exact isBlankChar_of_isHexDigit (isHexDigit_of_isDigitIn (s.isDigitIn_of_mem c hc))

end Spelling

/-! ## Taking a text apart -/

theorem baseOf_of_marked {mark : Text} (h : mark ≠ []) : baseOf mark = 16 := if_neg h

theorem splitBase_of_marked {mark : Text} (hmark : mark ∈ marks) (hne : mark ≠ []) (rest : Text) :
    splitBase (mark ++ rest) = (baseOf mark, rest) := by
  simp only [marks, List.mem_cons, List.not_mem_nil, or_false] at hmark
  rcases hmark with rfl | rfl | rfl
  · exact absurd rfl hne
  · rfl
  · rfl

theorem splitBase_of_isDigit {t : Text} (h : ∀ c ∈ t, c.isDigit) : splitBase t = (10, t) := by
  rw [splitBase]
  · rintro u rfl
    exact absurd (h 'x' (by simp)) (by decide)
  · rintro u rfl
    exact absurd (h 'X' (by simp)) (by decide)

theorem exists_splitBase (t : Text) :
    ∃ mark ∈ marks, ∃ rest, t = mark ++ rest ∧ splitBase t = (baseOf mark, rest) := by
  unfold splitBase
  split
  · exact ⟨['0', 'x'], by decide, _, rfl, rfl⟩
  · exact ⟨['0', 'X'], by decide, _, rfl, rfl⟩
  · exact ⟨[], by decide, _, rfl, rfl⟩

/-- A text is taken apart into a sign, a mark, and the rest, which may start with digits. -/
structure Divides (t sign mark rest : Text) : Prop where
  eq_append : t = sign ++ (mark ++ rest)
  sign_mem : sign ∈ signs
  mark_mem : mark ∈ marks
  splitSign_eq : splitSign t = (sign, mark ++ rest)
  splitBase_eq : splitBase (mark ++ rest) = (baseOf mark, rest)

/-- The digits that are counted. -/
def digitsOf (mark rest : Text) : Text := rest.takeWhile (isDigitIn (baseOf mark))

theorem exists_divides (t : Text) : ∃ sign mark rest, Divides t sign mark rest := by
  obtain ⟨sign, hsign, unsigned, htext, hsplit⟩ := exists_splitSign t
  obtain ⟨mark, hmark, rest, rfl, hbase⟩ := exists_splitBase unsigned
  exact ⟨sign, mark, rest, htext, hsign, hmark, hsplit, hbase⟩

theorem Spelling.digitsOf_eq (s : Spelling) : digitsOf s.mark s.digits = s.digits :=
  List.takeWhile_eq_self_iff.2 s.isDigitIn_of_mem

theorem Spelling.divides (s : Spelling) : Divides s.text s.sign s.mark s.digits where
  eq_append := rfl
  sign_mem := s.sign_mem
  mark_mem := s.mark_mem
  splitSign_eq := by
    have hhead := s.isHexDigit_of_head []
    rw [List.append_nil] at hhead
    exact splitSign_append s.sign_mem hhead
  splitBase_eq := by
    by_cases hmark : s.mark = []
    · have hdigits := s.isDigitIn_of_mem
      rw [hmark] at hdigits ⊢
      exact splitBase_of_isDigit hdigits
    · exact splitBase_of_marked s.mark_mem hmark s.digits

namespace Divides

variable {t sign mark rest : Text}

/-- What is spelled in front of the text, if there are digits. -/
def spelling (h : Divides t sign mark rest) (hne : digitsOf mark rest ≠ []) : Spelling where
  sign := sign
  mark := mark
  digits := digitsOf mark rest
  sign_mem := h.sign_mem
  mark_mem := h.mark_mem
  digits_ne_nil := hne
  isDigitIn_of_mem := fun _ hc => List.mem_takeWhile_imp hc

/-- Without digits, or with more behind them where there must be nothing, no integer is read. -/
theorem denoted?_eq_none (h : Divides (Text.trim t) sign mark rest) {strict : Bool}
    (hnone : digitsOf mark rest = [] ∨ (strict = true ∧ digitsOf mark rest ≠ rest)) :
    denoted? strict t = none := by
  simp only [denoted?, h.splitSign_eq, h.splitBase_eq]
  exact if_pos (hnone.imp_right .inl)

/-- Otherwise what is spelled is read, if its size is not beyond the limit. -/
theorem denoted?_eq (h : Divides (Text.trim t) sign mark rest) (hne : digitsOf mark rest ≠ [])
    {strict : Bool} (hwhole : strict = true → digitsOf mark rest = rest) :
    denoted? strict t =
      if greatestSize < (h.spelling hne).size then none else some (h.spelling hne).value := by
  have hdigits : ¬ (digitsOf mark rest = [] ∨ (strict = true ∧ digitsOf mark rest ≠ rest)) :=
    not_or.2 ⟨hne, fun hmore => hmore.2 (hwhole hmore.1)⟩
  have hsize : numeral (baseOf mark) (digitsOf mark rest) = (h.spelling hne).size :=
    numeral_eq_ofDigits _ _
  rw [digitsOf] at hdigits hsize
  simp only [denoted?, h.splitSign_eq, h.splitBase_eq, ← or_assoc, hdigits, false_or, hsize]
  by_cases hsign : sign = ['-'] <;> simp [Spelling.value, spelling, hsign]

end Divides

theorem Spelling.denoted?_eq (s : Spelling) {t : Text} (h : Text.trim t = s.text) (strict : Bool) :
    denoted? strict t = if greatestSize < s.size then none else some s.value := by
  have hdivides := s.divides
  rw [← h] at hdivides
  have hne : digitsOf s.mark s.digits ≠ [] := s.digitsOf_eq.symm ▸ s.digits_ne_nil
  have hsame : hdivides.spelling hne = s := Spelling.ext rfl rfl s.digitsOf_eq
  rw [hdivides.denoted?_eq hne fun _ => s.digitsOf_eq, hsame]

/-! ## Reading the whole text -/

theorem contains_iff {w : Width} {i : Int} :
    w.contains i ↔ -(w.half : Int) ≤ i ∧ i ≤ (w.half : Int) - 1 := by
  rw [Width.contains, Bool.and_eq_true, decide_eq_true_iff, decide_eq_true_iff]
  rfl

theorem half_le (w : Width) : w.half ≤ Width.bits128.half := by cases w <;> decide

/-- Of the integers that fit a width, the limit of sizes excludes the least one of 128 bits. -/
theorem Spelling.greatestSize_lt_iff (s : Spelling) {w : Width} (h : w.contains s.value) :
    greatestSize < s.size ↔ s.value = Width.bits128.least := by
  have hhalf := half_le w
  obtain ⟨k, hk⟩ : ∃ k, Width.bits128.half = k + 1 := ⟨_, rfl⟩
  rw [contains_iff] at h
  rw [greatestSize, Width.least, hk]
  by_cases hsign : s.sign = ['-']
  · rw [value, if_pos hsign] at h ⊢
    omega
  · rw [value, if_neg hsign] at h ⊢
    omega

theorem Spelling.read?_eq_some_iff (s : Spelling) {t : Text} (h : Text.trim t = s.text) (w : Width)
    (strict : Bool) (n : Int) :
    read? w strict t = some n ↔ s.value = n ∧ w.contains n ∧ n ≠ Width.bits128.least := by
  rw [read?, s.denoted?_eq h, Option.filter_eq_some_iff]
  constructor
  · rintro ⟨hsize, hfits⟩
    split at hsize
    · cases hsize
    · rename_i hlimit
      obtain rfl := Option.some.inj hsize
      exact ⟨rfl, hfits, fun hleast => hlimit ((s.greatestSize_lt_iff hfits).2 hleast)⟩
  · rintro ⟨rfl, hfits, hleast⟩
    rw [if_neg fun hlimit => hleast ((s.greatestSize_lt_iff hfits).1 hlimit)]
    exact ⟨rfl, hfits⟩

/-- What is read strictly is spelled. -/
theorem exists_spelling_of_denoted? {t : Text} {n : Int} (h : denoted? true t = some n) :
    ∃ s : Spelling, s.text = Text.trim t := by
  obtain ⟨sign, mark, rest, hdivides⟩ := exists_divides (Text.trim t)
  by_cases hnone : digitsOf mark rest = [] ∨ (true = true ∧ digitsOf mark rest ≠ rest)
  · rw [hdivides.denoted?_eq_none hnone] at h
    cases h
  · obtain ⟨hne, hmore⟩ := not_or.1 hnone
    have hwhole : digitsOf mark rest = rest := not_not.1 fun hother => hmore ⟨rfl, hother⟩
    refine ⟨hdivides.spelling hne, ?_⟩
    calc (hdivides.spelling hne).text = sign ++ (mark ++ digitsOf mark rest) := rfl
      _ = Text.trim t := by rw [hwhole, ← hdivides.eq_append]

/-- **Reading integers strictly.** A text is read as an integer exactly if, without the blanks at
its ends, it spells the integer, the integer fits the width, and it is not the least integer of 128
bits. So the decimal text of an integer that fits is read as this integer, with that one
exception. -/
theorem read?_strict_iff (w : Width) :
    (∀ t n, read? w true t = some n ↔ (∃ s : Spelling, s.text = Text.trim t ∧ s.value = n) ∧
      w.contains n ∧ n ≠ Width.bits128.least) ∧
    ∀ n, w.contains n → (read? w true (decimalText n) = some n ↔ n ≠ Width.bits128.least) := by
  refine ⟨fun t n => ⟨fun h => ?_, ?_⟩, fun n hfits => ?_⟩
  · obtain ⟨s, hs⟩ := exists_spelling_of_denoted? (Option.filter_eq_some_iff.1 h).1
    obtain ⟨hvalue, hfits⟩ := (s.read?_eq_some_iff hs.symm w true n).1 h
    exact ⟨⟨s, hs, hvalue⟩, hfits⟩
  · rintro ⟨⟨s, hs, hvalue⟩, hfits⟩
    exact (s.read?_eq_some_iff hs.symm w true n).2 ⟨hvalue, hfits⟩
  · have htext := (Spelling.ofInt n).trim_text
    rw [Spelling.text_ofInt] at htext
    rw [(Spelling.ofInt n).read?_eq_some_iff (htext.trans (Spelling.text_ofInt n).symm),
      Spelling.value_ofInt]
    simp [hfits]

/-- The least integer of 128 bits is not read. -/
theorem read?_least :
    Width.bits128.contains Width.bits128.least ∧
      (Spelling.ofInt Width.bits128.least).value = Width.bits128.least ∧
      read? .bits128 true (Spelling.ofInt Width.bits128.least).text = none := by
  refine ⟨by decide, Spelling.value_ofInt _, ?_⟩
  rw [Spelling.text_ofInt]
  decide

end PropertyConfig.Integer
