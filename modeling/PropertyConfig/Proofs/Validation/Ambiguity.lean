import PropertyConfig.Proofs.Store.Operations
import PropertyConfig.Proofs.Validation.Fulfillment

/-!
# Keys that go by more than one name

A key is ambiguous if two entries of the store go by its names (`KeyAttribute.NamesTwo`). Validation
counts names that are defined instead, and two names can be defined by one entry: because one name
is listed twice, or because letter case does not count (`KeyAttribute.NamesTwice`). So it reports an
ambiguity in either case (`KeyAttribute.two_le_defined_iff`). Main statement:
`Store.Reachable.ambiguous_iff`.
-/

namespace PropertyConfig

namespace KeyAttribute

variable {s : Store} {a : KeyAttribute}

/-- Two entries of the store go by names of the key. -/
def NamesTwo (s : Store) (a : KeyAttribute) : Prop :=
  ∃ d ∈ s.entries, ∃ e ∈ s.entries, d ≠ e ∧ a.names s d.1 ∧ a.names s e.1

/-- How often an entry is among the names of the key. -/
def timesNamed (s : Store) (a : KeyAttribute) (e : Entry) : Nat :=
  a.keys.countP (s.policy.sameKey e.1)

/-- An entry is named more than once. -/
def NamesTwice (s : Store) (a : KeyAttribute) : Prop := ∃ e ∈ s.entries, 2 ≤ a.timesNamed s e

instance : Decidable (a.NamesTwo s) :=
  inferInstanceAs (Decidable (∃ d ∈ s.entries, ∃ e ∈ s.entries, _))

theorem exists_of_contains (h : s.Distinct) {key : Text} (hkey : s.contains key) :
    ∃ e ∈ s.entries, s.policy.sameKey e.1 key := by
  obtain ⟨e, he, hfold⟩ := List.mem_map.1 ((Store.contains_iff h key).1 hkey)
  exact ⟨e, he, Policy.sameKey_iff.2 hfold⟩

theorem contains_of_sameKey (h : s.Distinct) {key : Text} {e : Entry} (he : e ∈ s.entries)
    (hsame : s.policy.sameKey e.1 key) : s.contains key :=
  (Store.contains_iff h key).2 (List.mem_map.2 ⟨e, he, Policy.sameKey_iff.1 hsame⟩)

theorem names_iff {key : Text} : a.names s key ↔ ∃ name ∈ a.keys, s.policy.sameKey key name := by
  rw [names, List.any_eq_true]

/-- Names that are the same key are counted among the defined ones. -/
theorem timesNamed_le (h : s.Distinct) {e : Entry} (he : e ∈ s.entries) :
    a.timesNamed s e ≤ (a.keys.filter s.contains).length := by
  rw [timesNamed, ← List.countP_eq_length_filter]
  exact List.countP_mono_left fun key _ hsame => contains_of_sameKey h he hsame

/-- Where one entry alone is named, all names that are defined are its names. -/
theorem length_defined_eq (h : s.Distinct) (htwo : ¬ a.NamesTwo s) {e : Entry} (he : e ∈ s.entries)
    (hnamed : a.names s e.1) : (a.keys.filter s.contains).length = a.timesNamed s e := by
  refine Nat.le_antisymm ?_ (timesNamed_le h he)
  rw [timesNamed, ← List.countP_eq_length_filter]
  refine List.countP_mono_left fun key hkey hdefined => ?_
  obtain ⟨d, hd, hsame⟩ := exists_of_contains h hdefined
  by_cases heq : d = e
  · exact heq ▸ hsame
  · exact absurd ⟨d, hd, e, he, heq, names_iff.2 ⟨key, hkey, hsame⟩, hnamed⟩ htwo

/-- More than one name is defined if and only if more than one entry is named, or if one is named
more than once. -/
theorem two_le_defined_iff (h : s.Distinct) :
    1 < (a.keys.filter s.contains).length ↔ a.NamesTwo s ∨ a.NamesTwice s := by
  constructor
  · intro hdefined
    rw [or_iff_not_imp_left]
    intro htwo
    obtain ⟨key, hmem⟩ := List.exists_mem_of_length_pos (Nat.lt_of_succ_lt hdefined)
    obtain ⟨hkey, hcontains⟩ := List.mem_filter.1 hmem
    obtain ⟨e, he, hsame⟩ := exists_of_contains h hcontains
    rw [length_defined_eq h htwo he (names_iff.2 ⟨key, hkey, hsame⟩)] at hdefined
    exact ⟨e, he, hdefined⟩
  · rintro (⟨d, hd, e, he, hne, hnamed, hnamed'⟩ | ⟨e, he, htwice⟩)
    · obtain ⟨k, hk, hsame⟩ := names_iff.1 hnamed
      obtain ⟨l, hl, hsame'⟩ := names_iff.1 hnamed'
      by_contra hone
      obtain rfl : l = k := eq_of_length_filter_le_one (Nat.not_lt.1 hone) hk
        (contains_of_sameKey h hd hsame) hl (contains_of_sameKey h he hsame')
      rw [Policy.sameKey_iff] at hsame hsame'
      exact hne (List.inj_on_of_nodup_map h hd he (hsame.trans hsame'.symm))
    · exact Nat.le_trans htwice (timesNamed_le h he)

/-- An attribute whose names are different keys does not name an entry more than once. -/
theorem not_namesTwice (h : (a.keys.map s.policy.fold).Nodup) : ¬ a.NamesTwice s := by
  rintro ⟨e, -, htwice⟩
  have hcount : a.timesNamed s e = (a.keys.map s.policy.fold).count (s.policy.fold e.1) := by
    rw [timesNamed, List.count_eq_countP, List.countP_map]
    refine List.countP_congr fun key _ => ?_
    rw [Policy.sameKey_iff, Function.comp_apply, beq_iff_eq, eq_comm]
  rw [hcount] at htwice
  exact absurd htwice (Nat.not_le.2 (Nat.lt_succ_of_le (List.nodup_iff_count_le_one.1 h _)))

theorem ambiguous_not_mem_valueErrors (keys : List Text) (key value : Text) :
    .ambiguous keys ∉ a.valueErrors key value := by
  unfold valueErrors
  repeat' split
  all_goals simp

theorem ambiguous_mem_ambiguity_iff {keys : List Text} :
    .ambiguous keys ∈ ambiguity s a ↔ a.keys = keys ∧ 1 < (a.keys.filter s.contains).length := by
  rw [ambiguity]
  split <;> rename_i hdefined
  · simp [hdefined, eq_comm]
  · simp [hdefined]

theorem ambiguous_mem_errors_iff {keys : List Text} :
    .ambiguous keys ∈ a.errors s ↔ a.keys = keys ∧ 1 < (a.keys.filter s.contains).length := by
  rw [errors, List.mem_append, ambiguous_mem_ambiguity_iff, or_iff_left]
  split
  · split <;> simp
  · exact ambiguous_not_mem_valueErrors keys _ _

end KeyAttribute

namespace Store

variable {s : Store} {attributes : List KeyAttribute} {a : KeyAttribute}

theorem ambiguous_mem_validate_iff (ha : a ∈ attributes) :
    .ambiguous a.keys ∈ (s.validate attributes).errors ↔
      1 < (a.keys.filter s.contains).length := by
  rw [validate, List.mem_flatMap]
  simp only [KeyAttribute.ambiguous_mem_errors_iff]
  constructor
  · rintro ⟨b, -, hkeys, hdefined⟩
    rwa [hkeys] at hdefined
  · intro hdefined
    exact ⟨a, ha, rfl, hdefined⟩

/-- **Ambiguous keys.** Let operations lead to a store while letter case counts, or does not count,
all the time. A key is reported as ambiguous if and only if two entries go by its names, or if one
entry is among them more than once. So the report speaks of two entries exactly if no entry is named
more than once unless another one is named, too; in particular, if no two of the names are the same
key. -/
theorem Reachable.ambiguous_iff {ignoreCase : Bool} (h : s.Reachable (·.ignoreCase = ignoreCase))
    (ha : a ∈ attributes) :
    let reported := KeyAttributeError.ambiguous a.keys ∈ (s.validate attributes).errors
    (reported ↔ a.NamesTwo s ∨ a.NamesTwice s) ∧
    ((reported ↔ a.NamesTwo s) ↔ (a.NamesTwice s → a.NamesTwo s)) ∧
    ((a.keys.map s.policy.fold).Nodup → (reported ↔ a.NamesTwo s)) := by
  intro reported
  have hreported : reported ↔ a.NamesTwo s ∨ a.NamesTwice s :=
    (ambiguous_mem_validate_iff ha).trans (KeyAttribute.two_le_defined_iff h.distinct)
  refine ⟨hreported, by rw [hreported, or_iff_left_iff_imp], fun hnames => ?_⟩
  rw [hreported, or_iff_left (KeyAttribute.not_namesTwice hnames)]

/-- A store with `v=1` and `w=2` in which letter case does not count. -/
def switches : Store :=
  (Store.perform { policy := { ignoreCase := true } } (.set ['v'] ['1'])).perform (.set ['w'] ['2'])

/-- There a key that goes by `V` and `w` is ambiguous, and one that goes by `V` and `x` is not. -/
theorem ambiguous_iff_switches :
    let both : KeyAttribute := ⟨[['V'], ['w']], false, .text⟩
    let single : KeyAttribute := ⟨[['V'], ['x']], true, .integer⟩
    .ambiguous both.keys ∈ (switches.validate [both, single]).errors ∧
      .ambiguous single.keys ∉ (switches.validate [both, single]).errors := by
  intro both single
  have h : switches.Reachable (·.ignoreCase = true) := .perform _ (.perform _ (.empty rfl))
  obtain ⟨hboth, -, -⟩ := h.ambiguous_iff (List.mem_cons_self : both ∈ [both, single])
  obtain ⟨-, -, hsingle⟩ := h.ambiguous_iff (List.mem_cons_of_mem both List.mem_cons_self :
    single ∈ [both, single])
  exact ⟨hboth.2 (.inl (by decide)), mt (hsingle (by decide)).1 (by decide)⟩

/-- A key with the specification `v,v` is reported as ambiguous where `v=1` is the only entry. -/
theorem ambiguous_of_repeated_name :
    let s : Store := Store.perform {} (.set ['v'] ['1'])
    s.Reachable (·.ignoreCase = false) ∧ s.entries = [(['v'], ['1'])] ∧
      ∃ a, KeyAttribute.read "v,v".toList = .ok a ∧
        .ambiguous a.keys ∈ (s.validate [a]).errors ∧ ¬ a.NamesTwo s ∧
        (KeyAttributeError.ambiguous a.keys).message = "multiple values found for keys: v,v" := by
  refine ⟨.perform _ (.empty rfl), rfl, ⟨[['v'], ['v']], false, .text⟩, rfl, ?_, ?_, ?_⟩
  · decide
  · decide
  · decide

end Store

end PropertyConfig
