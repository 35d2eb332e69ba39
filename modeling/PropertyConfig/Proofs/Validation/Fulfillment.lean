import PropertyConfig.Validation.Report

/-!
# What validated stores grant

A store in which validation finds nothing wrong can be read without surprises: each key that is
expected goes by one name at most, and reading it gives a value of the kind that is expected
(`KeyAttribute.Fulfilled`). Validation and reading look the value up and take it apart on their own,
so they are brought together for single values (`Store.readable_iff`) and for single attributes
(`KeyAttribute.errors_eq_nil_iff`). Main statement: `Store.isValid_validate_iff`.
-/

namespace PropertyConfig

/-! ## Values that are checked and values that are read -/

/-- A text that is a boolean as a whole is the same one where more may follow. -/
theorem Flag.read?_of_strict {t : Text} {b : Bool} (h : Flag.read? true t = some b) :
    Flag.read? false t = some b := by
  simp only [read?] at h ⊢
  generalize Text.toLower (Text.trim t) = word at h ⊢
  split at h
  · rename_i htrue
    obtain ⟨w, hw, heq⟩ := List.any_eq_true.1 htrue
    obtain rfl : word = w := by simpa [isWord] using heq
    have hprefix : trueWords.any (isWord false word) = true :=
      List.any_eq_true.2 ⟨word, hw, by simp [isWord]⟩
    rw [if_pos hprefix]
    exact h
  · split at h
    · -- no word for true is in front of a word for false
      rename_i hfalse
      obtain ⟨w, hw, heq⟩ := List.any_eq_true.1 hfalse
      obtain rfl : word = w := by simpa [isWord] using heq
      simp only [falseWords, List.mem_cons, List.not_mem_nil, or_false] at hw
      rcases hw with rfl | rfl | rfl | rfl <;> exact h
    · cases h

theorem Policy.lt_of_position? {p : Policy} {keys : List Text} {key : Text} {i : Nat}
    (h : p.position? keys key = some i) : i < keys.length := by
  rw [position?, Option.or_eq_some_iff] at h
  rcases h with hspelled | ⟨-, hletters⟩
  · exact (List.findIdx?_eq_some_iff_getElem.1 hspelled).1
  · split at hletters
    · exact (List.findIdx?_eq_some_iff_getElem.1 hletters).1
    · cases hletters

namespace Store

variable {s : Store} {key value : Text}

/-- A key that is defined has a value to be read, and no other key has one. -/
theorem contains_iff_exists_getText? : s.contains key ↔ ∃ value, s.getText? key = some value := by
  rw [contains, getText?, get?, entry?]
  cases hi : s.policy.position? s.keys key with
  | none => simp
  | some i =>
    have hlt : i < s.entries.length := by simpa [keys] using Policy.lt_of_position? hi
    simp [hlt]

/-- Reading a key whose value is `value` gives a value of the kind. A flag is the same whatever it
would be by default: it is set if the value is blank, and otherwise it is what the value says. -/
def Readable (s : Store) (key value : Text) : ValueKind → Prop
  | .text => ∃ t, s.require .text key = .ok t
  | .integer => ∃ n, s.require (.integer .bits64) key = .ok n
  | .real => ∃ x, s.require .double key = .ok x
  | .flag => ∃ b, (∀ fallback, s.getFlag key fallback = b) ∧
      if Text.isBlank value then b = true else s.require .flag key = .ok b

theorem exists_require_iff (hvalue : s.getText? key = some value) (k : Kind) :
    (∃ v, s.require k key = .ok v) ↔ (k.read? true value).isSome := by
  simp only [require_eq_ok_iff, hvalue, Option.some.injEq, exists_eq_left',
    Option.isSome_iff_exists]

theorem getFlag_of_require {b : Bool} (h : s.require .flag key = .ok b)
    (hvalue : s.getText? key = some value) (hblank : Text.isBlank value = false) (fallback : Bool) :
    s.getFlag key fallback = b := by
  obtain ⟨_, hsame, hread⟩ := require_eq_ok_iff.1 h
  obtain rfl := Option.some.inj (hvalue.symm.trans hsame)
  simp [getFlag, hvalue, hblank, Flag.read?_of_strict hread]

/-- What is read of a key is a value of the kind if and only if its text is accepted as one, or if
it is a flag and needs no text. -/
theorem readable_iff (hvalue : s.getText? key = some value) (k : ValueKind) :
    s.Readable key value k ↔ k = .flag ∧ Text.isBlank value ∨ k.accepts value := by
  cases k with
  | text => exact (exists_require_iff hvalue .text).trans (or_iff_right (by simp)).symm
  | integer =>
    exact (exists_require_iff hvalue (.integer .bits64)).trans (or_iff_right (by simp)).symm
  | real => exact (exists_require_iff hvalue .double).trans (or_iff_right (by simp)).symm
  | flag =>
    have haccepts : ValueKind.flag.accepts value ↔ ∃ b, s.require .flag key = .ok b :=
      (exists_require_iff hvalue .flag).symm
    rw [haccepts, Readable]
    cases hblank : Text.isBlank value with
    | true => simp [getFlag, hvalue, hblank]
    | false =>
      simp only [Bool.false_eq_true, if_false, and_false, false_or]
      constructor
      · rintro ⟨b, -, hrequire⟩
        exact ⟨b, hrequire⟩
      · rintro ⟨b, hrequire⟩
        exact ⟨b, getFlag_of_require hrequire hvalue hblank, hrequire⟩

end Store

/-! ## Attributes -/

namespace KeyAttribute

variable {s : Store} {a : KeyAttribute}

/-- A store has what an attribute asks for. -/
structure Fulfilled (s : Store) (a : KeyAttribute) : Prop where
  atMostOne : (a.keys.filter s.contains).length ≤ 1
  defined : a.mandatory → (a.keys.filter s.contains).length = 1
  /-- A mandatory value is not blank, unless it is a flag. -/
  filled : ∀ key ∈ a.keys, ∀ value, s.getText? key = some value →
    a.mandatory → a.kind ≠ .flag → Text.isBlank value = false
  /-- Where there is a value, it is of the kind. -/
  readable : ∀ key ∈ a.keys, ∀ value, s.getText? key = some value →
    (a.mandatory ∨ a.kind = .flag ∨ Text.isBlank value = false) → s.Readable key value a.kind

theorem valueErrors_eq_nil_iff {key value : Text} : a.valueErrors key value = [] ↔
    if Text.isBlank value then a.mandatory → a.kind = .flag else a.kind.accepts value := by
  rw [valueErrors]
  split
  · by_cases hmandatory : a.mandatory <;> simp [hmandatory]
  · by_cases haccepts : a.kind.accepts value <;> simp [haccepts]

/-- Nothing is wrong with the value of a key if and only if it is there when it has to be, and is of
the kind when it is there. -/
theorem valueErrors_eq_nil_iff_readable {key value : Text} (hvalue : s.getText? key = some value) :
    a.valueErrors key value = [] ↔
      (a.mandatory → a.kind ≠ .flag → Text.isBlank value = false) ∧
      ((a.mandatory ∨ a.kind = .flag ∨ Text.isBlank value = false) →
        s.Readable key value a.kind) := by
  rw [valueErrors_eq_nil_iff, Store.readable_iff hvalue]
  cases Text.isBlank value with
  | false => simp
  | true =>
    by_cases hflag : a.kind = .flag
    · simp [hflag]
    · by_cases hmandatory : a.mandatory <;> simp [hflag, hmandatory]

/-- If only one of the names is defined, the others are not. -/
theorem eq_of_length_filter_le_one (h : (a.keys.filter s.contains).length ≤ 1) {key other : Text}
    (hkey : key ∈ a.keys) (hdefined : s.contains key) (hother : other ∈ a.keys)
    (hother' : s.contains other) : other = key := by
  have hmem : key ∈ a.keys.filter s.contains := List.mem_filter.2 ⟨hkey, hdefined⟩
  have hmem' : other ∈ a.keys.filter s.contains := List.mem_filter.2 ⟨hother, hother'⟩
  obtain ⟨k, hk⟩ := List.length_eq_one_iff.1
    (Nat.le_antisymm h (List.length_pos_of_mem hmem))
  rw [hk, List.mem_singleton] at hmem hmem'
  rw [hmem, hmem']

theorem fulfilled_iff_of_none (h : s.firstDefined? a.keys = none) :
    a.Fulfilled s ↔ a.mandatory = false := by
  have hnone : a.keys.filter s.contains = [] :=
    List.filter_eq_nil_iff.2 (List.find?_eq_none.1 h)
  have habsent : ∀ key ∈ a.keys, ∀ value, s.getText? key ≠ some value := by
    intro key hkey value hvalue
    exact List.find?_eq_none.1 h key hkey (Store.contains_iff_exists_getText?.2 ⟨value, hvalue⟩)
  constructor
  · intro hfulfilled
    simpa [hnone] using hfulfilled.defined
  · intro hoptional
    exact {
      atMostOne := by simp [hnone]
      defined := by simp [hoptional]
      filled := fun key hkey value hvalue => absurd hvalue (habsent key hkey value)
      readable := fun key hkey value hvalue => absurd hvalue (habsent key hkey value) }

theorem fulfilled_iff_of_some {key value : Text} (h : s.firstDefined? a.keys = some key)
    (hvalue : s.getText? key = some value) :
    a.Fulfilled s ↔ (a.keys.filter s.contains).length ≤ 1 ∧ a.valueErrors key value = [] := by
  have hkey : key ∈ a.keys := List.mem_of_find?_eq_some h
  have hdefined : s.contains key := List.find?_some h
  rw [valueErrors_eq_nil_iff_readable hvalue]
  constructor
  · intro hfulfilled
    exact ⟨hfulfilled.atMostOne, hfulfilled.filled key hkey value hvalue,
      hfulfilled.readable key hkey value hvalue⟩
  · rintro ⟨hone, hfilled, hreadable⟩
    have honly {other found : Text} (hother : other ∈ a.keys)
        (hfound : s.getText? other = some found) : other = key ∧ found = value := by
      have hcontains := Store.contains_iff_exists_getText?.2 ⟨found, hfound⟩
      obtain rfl := eq_of_length_filter_le_one hone hkey hdefined hother hcontains
      exact ⟨rfl, Option.some.inj (hfound.symm.trans hvalue)⟩
    refine ⟨hone, fun _ => ?_, fun other hother found hfound => ?_,
      fun other hother found hfound => ?_⟩
    · exact Nat.le_antisymm hone
        (List.length_pos_of_mem (List.mem_filter.2 ⟨hkey, hdefined⟩))
    · obtain ⟨rfl, rfl⟩ := honly hother hfound
      exact hfilled
    · obtain ⟨rfl, rfl⟩ := honly hother hfound
      exact hreadable

/-- Nothing is wrong with a store as far as an attribute is concerned if and only if the store has
what the attribute asks for. -/
theorem errors_eq_nil_iff : a.errors s = [] ↔ a.Fulfilled s := by
  have hambiguity : ambiguity s a = [] ↔ (a.keys.filter s.contains).length ≤ 1 := by
    simp [ambiguity]
  rw [errors, List.append_eq_nil_iff, hambiguity]
  cases hfirst : s.firstDefined? a.keys with
  | none =>
    have hnone : a.keys.filter s.contains = [] :=
      List.filter_eq_nil_iff.2 (List.find?_eq_none.1 hfirst)
    simp [fulfilled_iff_of_none hfirst, hnone]
  | some key =>
    obtain ⟨value, hvalue⟩ := Store.contains_iff_exists_getText?.1 (List.find?_some hfirst)
    simp [fulfilled_iff_of_some hfirst hvalue, hvalue]

end KeyAttribute

/-- **What validated stores grant.** Validation finds nothing wrong with a store if and only if the
store has what every attribute asks for. At most one of the names of the attribute is defined, and
if it is mandatory one of them is. If the key is mandatory, or its expanded value is not blank, then
requiring the value succeeds for the kind of the attribute. A flag reads the same whatever it would
be by default: it is set if its value is blank, and otherwise it is what requiring it gives. -/
theorem Store.isValid_validate_iff (s : Store) (attributes : List KeyAttribute) :
    (s.validate attributes).isValid ↔ ∀ a ∈ attributes, a.Fulfilled s := by
  simp only [ValidationReport.isValid, validate, List.isEmpty_iff, List.flatMap_eq_nil_iff,
    KeyAttribute.errors_eq_nil_iff]

end PropertyConfig
