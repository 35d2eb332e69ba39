import PropertyConfig.Proofs.Document.Entries
import PropertyConfig.Proofs.Load.Stores
import PropertyConfig.Proofs.Scalar.Integer
import PropertyConfig.Proofs.Text.Letters
import PropertyConfig.Url.Parse

/-!
# Integers in documents

A value is required as an integer, and it is one in a document, by two different readings. Both want
decimal digits behind a sign; but the former trims the value first and takes either sign
(`IsNumeral.eq_of_read?`), while the latter takes the value as it is and no plus
(`Leaf.integer?_eq_some_iff`). Values of loaded stores are not trimmed, so the two come apart. Main
statement: `Loader.integer_in_document_iff`.
-/

namespace PropertyConfig

/-- A text is decimal digits behind one sign at most. -/
structure IsNumeral (t sign digits : Text) : Prop where
  eq_append : t = sign ++ digits
  sign_eq : sign = [] ∨ sign = ['-'] ∨ sign = ['+']
  ne_nil : digits ≠ []
  digits : ∀ c ∈ digits, c.isDigit

/-- The integer that a sign and digits stand for. -/
def signed (sign digits : Text) : Int :=
  if sign = ['-'] then -(numeral 10 digits : Int) else numeral 10 digits

/-! ## Texts with digits -/

theorem toLower_of_isDigit {c : Char} (h : c.isDigit) : c.toLower = c := by
  have hbounds := toNat_of_isDigit h
  unfold Char.toLower
  split
  · rename_i hupper
    have hlow : 65 ≤ c.toNat := UInt32.le_iff_toNat_le.1 hupper.1
    omega
  · rfl

/-- A text with a digit in it is no word. -/
theorem sameLetters_of_isDigit {c : Char} (h : c.isDigit) {t word : Text} (hmem : c ∈ t)
    (hword : (Text.toLower word).any Char.isDigit = false) : Text.sameLetters t word = false := by
  rw [← Bool.not_eq_true, Text.sameLetters_iff]
  intro hsame
  have hmem : c ∈ Text.toLower word := by
    rw [← hsame, ← toLower_of_isDigit h]
    exact List.mem_map_of_mem hmem
  exact List.any_eq_false.1 hword c hmem h

namespace IsNumeral

variable {t sign digits : Text}

theorem sign_mem (h : IsNumeral t sign digits) : sign ∈ signs := by simpa [signs] using h.sign_eq

theorem splitSign_eq (h : IsNumeral t sign digits) : splitSign t = (sign, digits) := by
  rw [h.eq_append]
  exact splitSign_append h.sign_mem fun c hc =>
    isHexDigit_of_isDigit (h.digits c (List.mem_of_mem_head? hc))

theorem of_splitSign (h : splitSign t = (sign, digits)) (hne : digits ≠ [])
    (hdigits : ∀ c ∈ digits, c.isDigit) : IsNumeral t sign digits := by
  obtain ⟨sign', hsign, rest, htext, hsplit⟩ := exists_splitSign t
  obtain ⟨rfl, rfl⟩ := Prod.mk.inj (hsplit.symm.trans h)
  exact ⟨htext, by simpa [signs] using hsign, hne, hdigits⟩

theorem sign_or_digit (h : IsNumeral t sign digits) {c : Char} (hc : c ∈ t) :
    c = '-' ∨ c = '+' ∨ c.isDigit := by
  rw [h.eq_append] at hc
  rcases List.mem_append.1 hc with hc | hc
  · rcases h.sign_eq with rfl | rfl | rfl
    · cases hc
    · exact .inl (List.mem_singleton.1 hc)
    · exact .inr (.inl (List.mem_singleton.1 hc))
  · exact .inr (.inr (h.digits c hc))

theorem point_not_mem (h : IsNumeral t sign digits) : '.' ∉ t := by
  intro hc
  rcases h.sign_or_digit hc with hc | hc | hc <;> exact absurd hc (by decide)

theorem trim_eq (h : IsNumeral t sign digits) : Text.trim t = t := by
  refine Text.trim_eq_self_of_plain fun c hc => ?_
  rcases h.sign_or_digit hc with rfl | rfl | hc
  · decide
  · decide
  · exact isBlankChar_of_isDigit hc

/-- A numeral spells an integer, without a mark of a base. -/
def spelling (h : IsNumeral t sign digits) : Integer.Spelling where
  sign := sign
  mark := []
  digits := digits
  sign_mem := h.sign_mem
  mark_mem := Integer.nil_mem_marks
  digits_ne_nil := h.ne_nil
  isDigitIn_of_mem := h.digits

theorem value_spelling (h : IsNumeral t sign digits) : h.spelling.value = signed sign digits := by
  have hsize : h.spelling.size = numeral 10 digits := (numeral_eq_ofDigits 10 digits).symm
  rw [Integer.Spelling.value, hsize]
  rfl

/-- What is read of a text that is a numeral, blanks at its ends aside. -/
theorem eq_of_read? (h : IsNumeral (Text.trim t) sign digits) {w : Width} {n : Int}
    (hn : Integer.read? w true t = some n) : n = signed sign digits ∧ w.contains n := by
  have htext : Text.trim t = h.spelling.text := h.eq_append
  obtain ⟨hvalue, hfits, -⟩ := (h.spelling.read?_eq_some_iff htext w true n).1 hn
  exact ⟨hvalue.symm.trans h.value_spelling, hfits⟩

end IsNumeral

/-! ## Leaves -/

namespace Leaf

variable {t sign digits : Text}

theorem integer?_eq_some_iff {n : Int} :
    Leaf.integer? t = some n ↔ ∃ sign digits, IsNumeral t sign digits ∧ sign ≠ ['+'] ∧
      n = signed sign digits ∧ Width.bits64.contains n := by
  obtain ⟨sign, digits, hsplit⟩ : ∃ sign digits, splitSign t = (sign, digits) := ⟨_, _, rfl⟩
  simp only [Leaf.integer?, hsplit]
  constructor
  · intro hn
    split at hn
    · cases hn
    · rename_i hdigits
      rw [not_or, not_or, Bool.not_eq_true', Bool.not_eq_false, List.all_eq_true] at hdigits
      obtain ⟨hne, hall, hplus⟩ := hdigits
      obtain ⟨hsize, hfits⟩ := Option.filter_eq_some_iff.1 hn
      have h : IsNumeral t sign digits := .of_splitSign hsplit hne hall
      exact ⟨sign, digits, h, hplus, (Option.some.inj hsize).symm, hfits⟩
  · rintro ⟨sign', digits', h, hplus, rfl, hfits⟩
    obtain ⟨rfl, rfl⟩ := Prod.mk.inj (hsplit.symm.trans h.splitSign_eq)
    have hall : digits.all Char.isDigit := List.all_eq_true.2 h.digits
    rw [if_neg (by simp [h.ne_nil, hall, hplus])]
    exact Option.filter_eq_some_iff.2 ⟨rfl, hfits⟩

/-- A value that is a numeral, blanks at its ends aside, is a text in a document if there are such
blanks, or if its sign is a plus. -/
theorem ofText_numeral (h : IsNumeral (Text.trim t) sign digits)
    (hfits : Width.bits64.contains (signed sign digits)) :
    Leaf.ofText t =
      if Text.trim t = t ∧ sign ≠ ['+'] then .integer (signed sign digits) else .text t := by
  obtain ⟨c, hc⟩ := List.exists_mem_of_ne_nil digits h.ne_nil
  have hmem : c ∈ t := by
    refine (Text.trim_sublist t).subset ?_
    rw [h.eq_append]
    exact List.mem_append_right sign hc
  have hdigit : c.isDigit := h.digits c hc
  have htrue : Text.sameLetters t ['t', 'r', 'u', 'e'] = false :=
    sameLetters_of_isDigit hdigit hmem (by decide)
  have hfalse : Text.sameLetters t ['f', 'a', 'l', 's', 'e'] = false :=
    sameLetters_of_isDigit hdigit hmem (by decide)
  have hreal : Leaf.real? t = none := by
    have hpoint : '.' ∉ t := by
      intro hpoint
      rcases Text.mem_trim_or_isBlankChar hpoint with hpoint | hblank
      · exact h.point_not_mem hpoint
      · exact absurd hblank (by decide)
    rw [Leaf.real?, if_neg (by simpa using hpoint)]
  simp only [Leaf.ofText, htrue, hfalse, Bool.false_eq_true, if_false, hreal]
  by_cases hbare : Text.trim t = t ∧ sign ≠ ['+']
  · rw [if_pos hbare]
    rw [hbare.1] at h
    rw [integer?_eq_some_iff.2 ⟨sign, digits, h, hbare.2, rfl, hfits⟩]
  · have hinteger : Leaf.integer? t = none := by
      rw [Option.eq_none_iff_forall_ne_some]
      intro n hn
      obtain ⟨sign', digits', h', hplus, -⟩ := integer?_eq_some_iff.1 hn
      have htrim := h'.trim_eq
      rw [htrim] at h
      obtain ⟨rfl, -⟩ := Prod.mk.inj (h.splitSign_eq.symm.trans h'.splitSign_eq)
      exact hbare ⟨htrim, hplus⟩
    rw [if_neg hbare, hinteger]

end Leaf

/-! ## Documents of loads -/

namespace Loader

/-- **Integers that are required, and those in the document.** Let a load succeed, and let a key
that has a place in the document, and that no other key goes beyond, have a decimal value that can
be required as an integer. Then the document has this integer at the path of the key if there are no
blanks at the ends of the value and its sign is no plus; otherwise it has the value as a text. -/
theorem integer_in_document_iff {l : Loader} {root : Root} {r : LoadReport}
    (hr : (l.load root).result = .ok r) {key value sign digits : Text} (hkey : key ∈ r.store.keys)
    (hplain : key.head? ≠ some '%')
    (hnone : ∀ other ∈ r.store.keys, ¬ GoesBeyond (Store.pathOf other) (Store.pathOf key))
    (hvalue : r.store.getText? key = some value)
    (hnumeral : IsNumeral (Text.trim value) sign digits) {n : Int}
    (hrequire : r.store.require (.integer .bits64) key = .ok n) (leaf : Leaf) :
    (Store.pathOf key, leaf) ∈ r.store.document.leaves ↔
      leaf = if Text.trim value = value ∧ sign ≠ ['+'] then .integer n else .text value := by
  obtain ⟨_, hsame, hread⟩ := Store.require_eq_ok_iff.1 hrequire
  obtain rfl := Option.some.inj (hvalue.symm.trans hsame)
  obtain ⟨rfl, hfits⟩ := hnumeral.eq_of_read? hread
  have hdocument : key ∈ r.store.documentKeys := List.mem_filter.2 ⟨hkey, by simpa using hplain⟩
  have hothers : ∀ other ∈ r.store.documentKeys,
      ¬ GoesBeyond (Store.pathOf other) (Store.pathOf key) := fun other hother =>
    hnone other (List.mem_filter.1 hother).1
  rw [Store.mem_leaves_document_iff (loaded_load hr).distinct.nodup_keys hdocument hothers hvalue,
    Leaf.ofText_numeral hnumeral hfits]

/-- A loader without any options. -/
def plainLoader : Loader := LoaderOptions.loader {} [] (fun _ => .ok []) UrlReader.ascii []

/-- In the text `a=5`, `b = 5` both keys have the integer 5, but in the document only one of them
has. -/
theorem integer_in_document_iff_spaced :
    let report : LoadReport := ⟨{ entries := [(['a'], ['5']), (['b'], " 5".toList)] }, []⟩
    let text := "a=5\nb = 5".toList
    (plainLoader.load (.text text)).result = .ok report ∧
      (report.store.require (.integer .bits64) ['a'] = .ok 5 ∧
        ([['a']], .integer 5) ∈ report.store.document.leaves) ∧
      report.store.require (.integer .bits64) ['b'] = .ok 5 ∧
        ([['b']], .text " 5".toList) ∈ report.store.document.leaves := by
  intro report text
  have hload : (plainLoader.load (.text text)).result = .ok report := rfl
  have hnumeral : IsNumeral ['5'] [] ['5'] :=
    ⟨rfl, by decide, by decide, List.all_eq_true.1 rfl⟩
  have hbare : report.store.getText? ['a'] = some ['5'] := rfl
  have hspaced : report.store.getText? ['b'] = some " 5".toList := rfl
  have ha : report.store.require (.integer .bits64) ['a'] = .ok 5 := rfl
  have hb : report.store.require (.integer .bits64) ['b'] = .ok 5 := rfl
  refine ⟨hload, ⟨ha, ?_⟩, hb, ?_⟩
  · exact (integer_in_document_iff hload (by decide) (by decide) (by decide) hbare hnumeral ha _).2
      rfl
  · exact (integer_in_document_iff hload (by decide) (by decide) (by decide) hspaced hnumeral hb
      _).2 rfl

/-- The line `a = 5` gives `a` a value that is required as the integer 5, and that the document has
as a text. -/
theorem text_in_document :
    ∃ report, (plainLoader.load (.text "a = 5".toList)).result = .ok report ∧
      report.store.keys = [['a']] ∧ report.store.getText? ['a'] = some " 5".toList ∧
      IsNumeral (Text.trim " 5".toList) [] ['5'] ∧
      report.store.require (.integer .bits64) ['a'] = .ok 5 ∧
      report.store.document.leaves = [([['a']], .text " 5".toList)] :=
  ⟨_, rfl, rfl, rfl, ⟨rfl, by decide, by decide, List.all_eq_true.1 rfl⟩, rfl, rfl⟩

end Loader

end PropertyConfig
