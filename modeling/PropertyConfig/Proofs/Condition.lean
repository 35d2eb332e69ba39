import PropertyConfig.Condition
import PropertyConfig.Proofs.Text.Trimming

/-!
# Written conditions

A condition is written as its key, or as its key, an operator and its value with any blanks around
the operator (`Condition.Written`). Reading looks for the operator first and takes the key and the
value from its two sides, so it finds the condition again if neither of them takes part in the
operator (`Condition.Written.read_eq`).
-/

namespace PropertyConfig.Condition

/-- A condition whose parts can be told apart where it is written. -/
structure IsWritable (c : Condition) : Prop where
  key_ne_nil : c.key ≠ []
  key_trimmed : Text.trim c.key = c.key
  key_plain : ∀ d ∈ c.key, isOperatorChar d = false
  value_trimmed : ∀ value ∈ c.value, Text.trim value = value
  value_plain : ∀ value ∈ c.value, ∀ d ∈ value.head?, isOperatorChar d = false
  value_of_negate : c.negate → c.value.isSome

/-- How a comparison can be spelled. -/
def operators (negate : Bool) : List Text := if negate then [['!', '=']] else [['='], ['=', '=']]

/-- The texts that a condition is written as. -/
inductive Written : Condition → Text → Prop
  | defined (key : Text) : Written ⟨key, none, false⟩ key
  | compared (key value : Text) {negate : Bool} {operator gap gap' : Text}
      (hoperator : operator ∈ operators negate) (hgap : Text.isBlank gap)
      (hgap' : Text.isBlank gap') :
      Written ⟨key, some value, negate⟩ (key ++ gap ++ (operator ++ (gap' ++ value)))

theorem exists_written {c : Condition} (h : c.IsWritable) : ∃ t, c.Written t := by
  obtain ⟨key, value, negate⟩ := c
  cases value with
  | none =>
    cases negate with
    | false => exact ⟨key, .defined key⟩
    | true => exact absurd (h.value_of_negate rfl) (by simp)
  | some value =>
    have hoperator : (operators negate).headI ∈ operators negate := by cases negate <;> decide
    exact ⟨_, .compared key value hoperator Text.isBlank_nil Text.isBlank_nil⟩

/-- What is written starts with the key. -/
theorem Written.exists_cons {c : Condition} {t : Text} (h : c.Written t) (hc : c.IsWritable) :
    ∃ d rest, t = d :: rest ∧ Text.isBlankChar d = false := by
  obtain ⟨rest, rfl⟩ : c.key <+: t := by
    cases h with
    | defined => exact List.prefix_rfl
    | compared => simp [List.append_assoc]
  obtain ⟨d, key, hkey⟩ := List.exists_cons_of_ne_nil hc.key_ne_nil
  have hbare := (Text.trim_eq_self_iff.1 hc.key_trimmed).1
  rw [hkey] at hbare ⊢
  exact ⟨d, key ++ rest, rfl, by simpa [Text.startsBare] using hbare⟩

theorem read_congr {t u : Text} (h : Text.trim t = Text.trim u) : read t = read u := by
  simp only [read, h]

/-! ## Operators -/

section Operators

variable {negate : Bool} {operator : Text}

theorem isOperatorChar_of_mem (h : operator ∈ operators negate) :
    ∀ d ∈ operator, isOperatorChar d := by
  have hall : ∀ operator ∈ operators negate, operator.all isOperatorChar := by
    cases negate <;> decide
  exact List.all_eq_true.1 (hall operator h)

theorem exists_of_mem_operators (h : operator ∈ operators negate) :
    ∃ d rest, operator = d :: rest ∧ Text.isBlankChar d = false ∧ Text.endsBare rest := by
  cases negate with
  | false =>
    obtain rfl | rfl : operator = ['='] ∨ operator = ['=', '='] := by simpa [operators] using h
    all_goals exact ⟨_, _, rfl, by decide, by decide⟩
  | true =>
    obtain rfl : operator = ['!', '='] := by simpa [operators] using h
    exact ⟨_, _, rfl, by decide, by decide⟩

theorem ne_nil_of_mem_operators (h : operator ∈ operators negate) : operator ≠ [] := by
  obtain ⟨d, rest, rfl, -, -⟩ := exists_of_mem_operators h
  exact List.cons_ne_nil d rest

theorem exists_comparison (h : operator ∈ operators negate) :
    ∃ comparison, Comparison.read? operator = some comparison ∧ comparison ≠ .defined ∧
      decide (comparison = .unequal) = negate := by
  cases negate with
  | false =>
    obtain rfl | rfl : operator = ['='] ∨ operator = ['=', '='] := by simpa [operators] using h
    all_goals exact ⟨.equal, rfl, by decide, by decide⟩
  | true =>
    obtain rfl : operator = ['!', '='] := by simpa [operators] using h
    exact ⟨.unequal, rfl, by decide, by decide⟩

end Operators

theorem not_isOperatorChar_of_isBlankChar {d : Char} (h : Text.isBlankChar d) :
    isOperatorChar d = false := by
  rw [← Bool.not_eq_true]
  intro hd
  have hd : d = '!' ∨ d = '=' := by simpa [isOperatorChar] using hd
  rcases hd with rfl | rfl <;> exact absurd h (by decide)

/-- Behind blanks, no value goes on with the operator. -/
theorem not_isOperatorChar_of_mem_head? {gap value : Text} (hgap : Text.isBlank gap)
    (hvalue : ∀ d ∈ value.head?, isOperatorChar d = false) :
    ∀ d ∈ (gap ++ value).head?, isOperatorChar d = false := by
  cases gap with
  | nil => exact hvalue
  | cons c gap =>
    rintro d ⟨⟩
    exact not_isOperatorChar_of_isBlankChar (List.all_eq_true.1 hgap _ List.mem_cons_self)

/-! ## Reading -/

theorem read_key {key : Text} (hne : key ≠ []) (htrim : Text.trim key = key)
    (hkey : ∀ d ∈ key, isOperatorChar d = false) : read key = .ok ⟨key, none, false⟩ := by
  have htake : key.takeWhile (!isOperatorChar ·) = key :=
    List.takeWhile_eq_self_iff.2 fun d hd => by simp [hkey d hd]
  have hdrop : key.dropWhile (!isOperatorChar ·) = [] :=
    List.dropWhile_eq_nil_iff.2 fun d hd => by simp [hkey d hd]
  simp [read, htrim, htake, hdrop, hne, Comparison.read?, comparedValue]

/-- What stands in front of the operator is the key, what stands behind it is the value. -/
theorem read_comparison {front operator rest : Text} {comparison : Comparison}
    (htrim : Text.trim (front ++ (operator ++ rest)) = front ++ (operator ++ rest))
    (hfront : ∀ d ∈ front, isOperatorChar d = false) (hkey : Text.trim front ≠ [])
    (hoperator : ∀ d ∈ operator, isOperatorChar d) (hne : operator ≠ [])
    (hrest : ∀ d ∈ rest.head?, isOperatorChar d = false)
    (hread : Comparison.read? operator = some comparison) (hdefined : comparison ≠ .defined) :
    read (front ++ (operator ++ rest)) =
      .ok ⟨Text.trim front, some (Text.trim rest), comparison = .unequal⟩ := by
  have hfront : ∀ d ∈ front, !isOperatorChar d := fun d hd => by simp [hfront d hd]
  have hhead : ∀ d ∈ (operator ++ rest).head?, (!isOperatorChar d) = false := by
    intro d hd
    rw [List.head?_append_of_ne_nil _ hne] at hd
    simp [hoperator d (List.mem_of_mem_head? hd)]
  simp only [read, htrim]
  rw [Text.takeWhile_append_of_head hfront hhead, Text.dropWhile_append_of_head hfront hhead,
    Text.takeWhile_append_of_head hoperator hrest, Text.dropWhile_append_of_head hoperator hrest,
    if_neg hkey, hread]
  simp [comparedValue, hdefined]

/-- Only what stands behind the operator can end in blanks. -/
theorem trim_comparison {front : Text} (hne : front ≠ []) (hstart : Text.startsBare front)
    {negate : Bool} {operator : Text} (hoperator : operator ∈ operators negate) (rest : Text) :
    Text.trim (front ++ (operator ++ rest)) = front ++ (operator ++ Text.trimEnd rest) := by
  obtain ⟨d, operator', rfl, hd, hbare⟩ := exists_of_mem_operators hoperator
  have hfixed : Text.trim (front ++ d :: operator') = front ++ d :: operator' :=
    Text.trim_append_cons hne hstart hd hbare
  rw [← List.append_assoc, Text.trim_append (by simp) hfixed, List.append_assoc]

/-- **A condition is read as the one that was written.** -/
theorem Written.read_eq {c : Condition} {t : Text} (h : c.Written t) (hc : c.IsWritable) :
    read t = .ok c := by
  cases h with
  | defined key => exact read_key hc.key_ne_nil hc.key_trimmed hc.key_plain
  | @compared key value negate operator gap gap' hoperator hgap hgap' =>
    obtain ⟨comparison, hread, hdefined, hnegate⟩ := exists_comparison hoperator
    have hkey : Text.trim (key ++ gap) = key :=
      (Text.trim_append_of_isBlank hgap key).trans hc.key_trimmed
    have hkey_ne : Text.trim (key ++ gap) ≠ [] := by
      rw [hkey]
      exact hc.key_ne_nil
    have hvalue : Text.trim (Text.trimEnd (gap' ++ value)) = value := by
      rw [Text.trim_trimEnd, Text.trim_append_left_of_isBlank hgap', hc.value_trimmed value rfl]
    have hstart : Text.startsBare (key ++ gap) :=
      Text.startsBare_append hc.key_ne_nil (Text.trim_eq_self_iff.1 hc.key_trimmed).1 gap
    have htrim := trim_comparison (by simp [hc.key_ne_nil]) hstart hoperator (gap' ++ value)
    have hfront : ∀ d ∈ key ++ gap, isOperatorChar d = false := by
      intro d hd
      rcases List.mem_append.1 hd with hd | hd
      · exact hc.key_plain d hd
      · exact not_isOperatorChar_of_isBlankChar (List.all_eq_true.1 hgap d hd)
    have hhead : ∀ d ∈ (Text.trimEnd (gap' ++ value)).head?, isOperatorChar d = false := fun d hd =>
      not_isOperatorChar_of_mem_head? hgap' (hc.value_plain value rfl) d
        (Text.mem_head?_of_mem_head?_trimEnd hd)
    rw [read_congr (Text.trim_trim _).symm, htrim,
      read_comparison (htrim ▸ Text.trim_trim _) hfront hkey_ne (isOperatorChar_of_mem hoperator)
        (ne_nil_of_mem_operators hoperator) hhead hread hdefined, hkey, hvalue, hnegate]

example : read " host != ".toList = .ok ⟨"host".toList, some [], true⟩ := rfl

end PropertyConfig.Condition
