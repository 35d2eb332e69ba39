import Mathlib.Data.List.Nodup
import Mathlib.Data.List.Perm.Basic
import PropertyConfig.Store.Edit

/-!
# Keys of a store

Edits keep the keys of a store distinct: no two of them are the same key under its policy
(`distinct_run`). Among distinct keys it does not matter how a key is spelled: it is found where it
stands (`get?_eq_value?`), and assigning it replaces its value there, or adds it at the end
(`entries_assign`).
-/

namespace PropertyConfig

namespace Policy

variable (p : Policy)

/-- What all spellings of a key have in common. -/
def fold (key : Text) : Text := if p.ignoreCase then Text.toLower key else key

theorem sameKey_iff {p : Policy} {a b : Text} : p.sameKey a b ↔ p.fold a = p.fold b := by
  unfold sameKey fold
  split <;> simp [Text.sameLetters]

theorem sameKey_eq_false_iff {p : Policy} {a b : Text} :
    p.sameKey a b = false ↔ p.fold a ≠ p.fold b := by
  rw [Bool.eq_false_iff, ne_eq, sameKey_iff]

/-- No two entries have the same key. -/
def Distinct (entries : List Entry) : Prop := (entries.map fun e => p.fold e.1).Nodup

/-- The value of the first entry that has the key. -/
def value? (key : Text) : List Entry → Option Text
  | [] => none
  | e :: rest => if p.fold e.1 = p.fold key then some e.2 else value? key rest

/-- Gives the first entry that has the key another value, or adds an entry. -/
def upsert (key value : Text) : List Entry → List Entry
  | [] => [(key, value)]
  | e :: rest =>
    if p.fold e.1 = p.fold key then (e.1, value) :: rest else e :: upsert key value rest

variable {p}

theorem distinct_cons {e : Entry} {entries : List Entry} :
    p.Distinct (e :: entries) ↔ (∀ d ∈ entries, p.fold d.1 ≠ p.fold e.1) ∧ p.Distinct entries := by
  simp [Distinct]

theorem position?_eq {entries : List Entry} (h : p.Distinct entries) (key : Text) :
    p.position? (entries.map Prod.fst) key =
      entries.findIdx? fun e => p.fold e.1 = p.fold key := by
  induction entries with
  | nil => simp [position?]
  | cons e rest ih =>
    obtain ⟨hne, hrest⟩ := distinct_cons.1 h
    have ih := ih hrest
    by_cases hsame : p.fold e.1 = p.fold key
    · -- spelled in another way, the key stands nowhere else
      have hspelled : e.1 ≠ key → (rest.map Prod.fst).findIdx? (· == key) = none := by
        intro _
        rw [List.findIdx?_eq_none_iff]
        intro k hk
        obtain ⟨d, hd, rfl⟩ := List.mem_map.1 hk
        have hd : d.1 ≠ key := fun heq => hne d hd (by rw [heq, hsame])
        simpa using hd
      by_cases hkey : e.1 = key
      · simp [position?, List.findIdx?_cons, hkey]
      · have hcase : p.ignoreCase = true := by
          by_contra hcase
          simp [fold, hcase] at hsame
          exact hkey hsame
        have hletters : Text.sameLetters e.1 key = true := by
          simpa [fold, hcase, Text.sameLetters] using hsame
        simp [position?, List.findIdx?_cons, hkey, hsame, hspelled hkey, hcase, hletters]
    · have hkey : e.1 ≠ key := fun heq => hsame (by rw [heq])
      have hletters : p.ignoreCase = true → Text.sameLetters e.1 key = false := by
        intro hcase
        simpa [fold, hcase, Text.sameLetters] using hsame
      simp only [position?, List.map_cons, List.findIdx?_cons] at ih ⊢
      rw [show decide (p.fold e.1 = p.fold key) = false by simpa using hsame, ← ih]
      by_cases hcase : p.ignoreCase = true
      · simp [hkey, hcase, hletters hcase, Option.map_or]
      · simp [hkey, hcase]

theorem upsert_eq (key value : Text) (entries : List Entry) :
    p.upsert key value entries =
      match entries.findIdx? fun e => p.fold e.1 = p.fold key with
      | some i => entries.modify i fun e => (e.1, value)
      | none => entries ++ [(key, value)] := by
  induction entries with
  | nil => simp [upsert]
  | cons e rest ih =>
    by_cases hsame : p.fold e.1 = p.fold key
    · simp [upsert, List.findIdx?_cons, hsame]
    · simp only [upsert, ih, List.findIdx?_cons, hsame, decide_false]
      cases rest.findIdx? fun e => p.fold e.1 = p.fold key <;> simp

theorem value?_eq (key : Text) (entries : List Entry) :
    p.value? key entries =
      ((entries.findIdx? fun e => p.fold e.1 = p.fold key).bind (entries[·]?)).map Prod.snd := by
  induction entries with
  | nil => simp [value?]
  | cons e rest ih =>
    by_cases hsame : p.fold e.1 = p.fold key
    · simp [value?, List.findIdx?_cons, hsame]
    · simp only [value?, ih, List.findIdx?_cons, hsame, decide_false]
      cases rest.findIdx? fun e => p.fold e.1 = p.fold key <;> simp

theorem value?_eq_none_iff {key : Text} {entries : List Entry} :
    p.value? key entries = none ↔ ∀ e ∈ entries, p.fold e.1 ≠ p.fold key := by
  induction entries with
  | nil => simp [value?]
  | cons e rest ih => by_cases hsame : p.fold e.1 = p.fold key <;> simp [value?, hsame, ih]

theorem eraseIdx_findIdx? {entries : List Entry} (h : p.Distinct entries)
    (key : Text) :
    (match entries.findIdx? fun e => p.fold e.1 = p.fold key with
      | some i => entries.eraseIdx i
      | none => entries) =
      entries.filter fun e => p.fold e.1 ≠ p.fold key := by
  induction entries with
  | nil => rfl
  | cons e rest ih =>
    obtain ⟨hne, hrest⟩ := distinct_cons.1 h
    by_cases hsame : p.fold e.1 = p.fold key
    · have hall : rest.filter (fun d => p.fold d.1 ≠ p.fold key) = rest := by
        rw [List.filter_eq_self]
        intro d hd
        simpa [← hsame] using hne d hd
      rw [List.filter_cons_of_neg (by simpa using hsame), hall]
      simp [List.findIdx?_cons, hsame]
    · rw [List.filter_cons_of_pos (by simpa using hsame), ← ih hrest]
      simp only [List.findIdx?_cons, hsame, decide_false]
      cases rest.findIdx? fun e => p.fold e.1 = p.fold key <;> simp

/-! ## Values after assignments -/

/-- An upsert changes no key, and adds its own at the end if it is not there. -/
theorem map_upsert {α : Type} (f : Text → α) (key value : Text) (entries : List Entry) :
    (p.upsert key value entries).map (fun e => f e.1) =
      entries.map (fun e => f e.1) ++
        if p.fold key ∈ entries.map (fun e => p.fold e.1) then [] else [f key] := by
  induction entries with
  | nil => simp [upsert]
  | cons e rest ih =>
    by_cases hsame : p.fold e.1 = p.fold key
    · simp [upsert, hsame]
    · have hmem : p.fold key ∈ (e :: rest).map (fun e => p.fold e.1) ↔
          p.fold key ∈ rest.map fun e => p.fold e.1 := by
        rw [List.map_cons, List.mem_cons, or_iff_right (fun h => hsame h.symm)]
      simp only [upsert, if_neg hsame, List.map_cons, ih, List.cons_append, ← hmem]

theorem folds_upsert (key value : Text) (entries : List Entry) :
    (p.upsert key value entries).map (fun e => p.fold e.1) =
      entries.map (fun e => p.fold e.1) ++
        if p.fold key ∈ entries.map (fun e => p.fold e.1) then [] else [p.fold key] :=
  map_upsert p.fold key value entries

theorem exists_mem_upsert_iff {key value f : Text} {entries : List Entry} :
    (∃ e ∈ p.upsert key value entries, p.fold e.1 = f) ↔
      p.fold key = f ∨ ∃ e ∈ entries, p.fold e.1 = f := by
  have hfolds := congrArg (f ∈ ·) (folds_upsert (p := p) key value entries)
  simp only [List.mem_map, List.mem_append, eq_iff_iff] at hfolds
  rw [hfolds, or_comm]
  split
  · rename_i hmem
    simp only [List.not_mem_nil, false_or]
    exact ⟨.inr, fun h => h.elim (fun heq => heq ▸ hmem) id⟩
  · simp [eq_comm]

/-- What holds of all entries and of the new one still holds of all behind an upsert, if a value can
be replaced by the new one. -/
theorem forall_mem_upsert {P : Entry → Prop} {key value : Text} {entries : List Entry}
    (hnew : P (key, value)) (hentries : ∀ e ∈ entries, P e)
    (hreplaced : ∀ e, P e → p.fold e.1 = p.fold key → P (e.1, value)) :
    ∀ e ∈ p.upsert key value entries, P e := by
  induction entries with
  | nil => simpa [upsert] using hnew
  | cons d rest ih =>
    have hd := hentries d List.mem_cons_self
    have hrest := fun e he => hentries e (List.mem_cons_of_mem _ he)
    unfold upsert
    split
    · rename_i hsame
      exact List.forall_mem_cons.2 ⟨hreplaced d hd hsame, hrest⟩
    · exact List.forall_mem_cons.2 ⟨hd, ih hrest⟩

theorem distinct_upsert {entries : List Entry} (h : p.Distinct entries) (key value : Text) :
    p.Distinct (p.upsert key value entries) := by
  rw [Distinct, folds_upsert]
  split
  · simpa [Distinct] using h
  · rename_i hnew
    refine List.nodup_append.2 ⟨h, List.nodup_singleton _, ?_⟩
    intro a ha b hb hab
    rw [List.mem_singleton.1 hb] at hab
    exact hnew (hab ▸ ha)

theorem value?_upsert (key value other : Text) (entries : List Entry) :
    p.value? other (p.upsert key value entries) =
      if p.fold key = p.fold other then some value else p.value? other entries := by
  induction entries with
  | nil => simp [upsert, value?]
  | cons e rest ih =>
    by_cases hsame : p.fold e.1 = p.fold key
    · by_cases hother : p.fold key = p.fold other <;> simp [upsert, value?, hsame, hother]
    · by_cases hother : p.fold key = p.fold other
      · simp [upsert, value?, hother ▸ hsame, ih, hother]
      · simp [upsert, value?, hsame, ih, hother]

/-! ## Entries put over others -/

/-- The entries after others have been assigned, one after the other. -/
def overlay (p : Policy) (entries : List Entry) : List Entry → List Entry
  | [] => entries
  | e :: added => overlay p (p.upsert e.1 e.2 entries) added

theorem distinct_overlay {entries : List Entry} (h : p.Distinct entries) (added : List Entry) :
    p.Distinct (p.overlay entries added) := by
  induction added generalizing entries with
  | nil => exact h
  | cons e added ih => exact ih (distinct_upsert h e.1 e.2)

theorem upsert_of_new {key : Text} {entries : List Entry}
    (h : ∀ e ∈ entries, p.fold e.1 ≠ p.fold key) (value : Text) :
    p.upsert key value entries = entries ++ [(key, value)] := by
  induction entries with
  | nil => rfl
  | cons e rest ih =>
    obtain ⟨hne, hrest⟩ := List.forall_mem_cons.1 h
    rw [upsert, if_neg hne, ih hrest, List.cons_append]

/-- Entries of new keys come behind the others. -/
theorem overlay_of_distinct {entries added : List Entry} (h : p.Distinct (entries ++ added)) :
    p.overlay entries added = entries ++ added := by
  induction added generalizing entries with
  | nil => rw [overlay, List.append_nil]
  | cons e added ih =>
    have hnew : ∀ d ∈ entries, p.fold d.1 ≠ p.fold e.1 := by
      rw [Distinct, List.map_append, List.map_cons, List.nodup_append] at h
      intro d hd
      exact h.2.2 _ (List.mem_map_of_mem hd) _ List.mem_cons_self
    have happend : entries ++ e :: added = (entries ++ [e]) ++ added := by simp
    rw [overlay, upsert_of_new hnew, happend]
    exact ih (happend ▸ h)

theorem value?_overlay {added : List Entry} (h : p.Distinct added) (key : Text)
    (entries : List Entry) :
    p.value? key (p.overlay entries added) = (p.value? key added).or (p.value? key entries) := by
  induction added generalizing entries with
  | nil => rfl
  | cons e added ih =>
    obtain ⟨hne, hadded⟩ := distinct_cons.1 h
    rw [overlay, ih hadded, value?_upsert, value?]
    by_cases hsame : p.fold e.1 = p.fold key
    · have hnone : p.value? key added = none :=
        value?_eq_none_iff.2 fun d hd => hsame ▸ hne d hd
      simp [hsame, hnone]
    · simp [hsame]

/-- Of two assignments to a key the second one counts. -/
theorem upsert_upsert {key key' : Text} (h : p.fold key' = p.fold key) (value value' : Text)
    (entries : List Entry) :
    p.upsert key value (p.upsert key' value' entries) = p.upsert key' value entries := by
  induction entries with
  | nil => simp [upsert, h]
  | cons e rest ih =>
    by_cases hsame : p.fold e.1 = p.fold key
    · simp [upsert, h, hsame]
    · simp [upsert, h, hsame, ih]

/-- Assignments to different keys commute where one of the keys is there already. -/
theorem upsert_comm {key key' : Text} (h : p.fold key' ≠ p.fold key) (value value' : Text)
    {entries : List Entry} (hmem : ∃ e ∈ entries, p.fold e.1 = p.fold key) :
    p.upsert key value (p.upsert key' value' entries) =
      p.upsert key' value' (p.upsert key value entries) := by
  induction entries with
  | nil => simp at hmem
  | cons e rest ih =>
    by_cases hsame : p.fold e.1 = p.fold key
    · have hother : p.fold e.1 ≠ p.fold key' := fun heq => h (heq ▸ hsame)
      simp [upsert, hsame, Ne.symm h]
    · have hrest : ∃ e ∈ rest, p.fold e.1 = p.fold key := by
        obtain ⟨d, hd, heq⟩ := hmem
        rcases List.mem_cons.1 hd with rfl | hd
        · exact absurd heq hsame
        · exact ⟨d, hd, heq⟩
      by_cases hother : p.fold e.1 = p.fold key'
      · simp [upsert, hother, h]
      · simp [upsert, hsame, hother, ih hrest]

/-- A key that is there can be assigned before or after entries without it. -/
theorem upsert_overlay {key : Text} (value : Text) {added : List Entry}
    (hadded : ∀ e ∈ added, p.fold e.1 ≠ p.fold key) {entries : List Entry}
    (hmem : ∃ e ∈ entries, p.fold e.1 = p.fold key) :
    p.upsert key value (p.overlay entries added) =
      p.overlay (p.upsert key value entries) added := by
  induction added generalizing entries with
  | nil => rfl
  | cons d added ih =>
    have hstill : ∃ e ∈ p.upsert d.1 d.2 entries, p.fold e.1 = p.fold key :=
      exists_mem_upsert_iff.2 (.inr hmem)
    rw [overlay, ih (fun e he => hadded e (List.mem_cons_of_mem _ he)) hstill, overlay,
      upsert_comm (hadded d List.mem_cons_self) _ _ hmem]

/-- It is the same to assign a key among the upper entries and to assign it in the end. -/
theorem overlay_upsert {added : List Entry} (h : p.Distinct added) (key value : Text)
    (entries : List Entry) :
    p.overlay entries (p.upsert key value added) =
      p.upsert key value (p.overlay entries added) := by
  induction added generalizing entries with
  | nil => rfl
  | cons e added ih =>
    obtain ⟨hne, hadded⟩ := distinct_cons.1 h
    by_cases hsame : p.fold e.1 = p.fold key
    · have hmem : ∃ d ∈ p.upsert e.1 e.2 entries, p.fold d.1 = p.fold key :=
        exists_mem_upsert_iff.2 (.inl hsame)
      rw [upsert, if_pos hsame, overlay, overlay,
        upsert_overlay value (fun d hd => hsame ▸ hne d hd) hmem, upsert_upsert hsame]
    · rw [upsert, if_neg hsame, overlay, overlay, ih hadded]

end Policy

namespace Store

/-- No two keys are the same one. -/
def Distinct (s : Store) : Prop := s.policy.Distinct s.entries

theorem Distinct.nodup_keys {s : Store} (h : s.Distinct) : s.keys.Nodup := by
  have hfolds : (s.keys.map s.policy.fold).Nodup := by
    rw [keys, List.map_map]
    exact h
  exact hfolds.of_map

theorem mem_keys_of_get? {s : Store} (hcase : s.policy.ignoreCase = false) {key : Text}
    (h : s.get? key ≠ none) : key ∈ s.keys := by
  have hpos : s.keys.findIdx? (· == key) ≠ none := by
    intro hnone
    simp [get?, entry?, Policy.position?, hcase, hnone] at h
  rw [ne_eq, List.findIdx?_eq_none_iff] at hpos
  simpa using hpos

theorem get?_eq_value? {s : Store} (h : s.Distinct) (key : Text) :
    s.get? key = s.policy.value? key s.entries := by
  rw [get?, entry?, keys, Policy.position?_eq h, Policy.value?_eq]

/-- The entry that a key stands for is the only one that has the key. -/
theorem entry?_eq_find? {s : Store} (h : s.Distinct) (key : Text) :
    s.entry? key = s.entries.find? fun e => s.policy.fold e.1 = s.policy.fold key := by
  unfold entry?
  rw [keys, Policy.position?_eq h, List.find?_eq_bind_findIdx?_getElem?]

/-- Only the name does not keep its place. -/
theorem entries_assign {s : Store} (h : s.Distinct) {key : Text} (hname : key ≠ nameKey)
    (value : Text) : (s.assign key value).entries = s.policy.upsert key value s.entries := by
  rw [assign, keys, Policy.position?_eq h, Policy.upsert_eq]
  cases s.entries.findIdx? fun e => s.policy.fold e.1 = s.policy.fold key <;> simp [hname]

theorem entries_assign_perm {s : Store} (h : s.Distinct) (key value : Text) :
    (s.assign key value).entries.Perm (s.policy.upsert key value s.entries) := by
  by_cases hname : key = nameKey
  · rw [assign, keys, Policy.position?_eq h, Policy.upsert_eq]
    cases hi : s.entries.findIdx? fun e => s.policy.fold e.1 = s.policy.fold key with
    | none =>
      simp only [hname, if_true]
      exact (List.perm_append_singleton _ _).symm
    | some i =>
      obtain ⟨hlt, -⟩ := List.findIdx?_eq_some_iff_getElem.1 hi
      simp only [hname, if_true, toFront]
      rw [List.getElem?_eq_getElem (by simpa using hlt)]
      exact List.getElem_cons_eraseIdx_perm _
  · rw [entries_assign h hname]

theorem entries_erase {s : Store} (h : s.Distinct) (key : Text) :
    (s.erase key).entries = s.entries.filter fun e => s.policy.fold e.1 ≠ s.policy.fold key := by
  rw [← Policy.eraseIdx_findIdx? h, erase, keys, Policy.position?_eq h]
  cases s.entries.findIdx? fun e => s.policy.fold e.1 = s.policy.fold key <;> rfl

theorem contains_iff {s : Store} (h : s.Distinct) (key : Text) :
    s.contains key ↔ s.policy.fold key ∈ s.entries.map fun e => s.policy.fold e.1 := by
  rw [contains, keys, Policy.position?_eq h, List.findIdx?_isSome, List.any_eq_true, List.mem_map]
  simp

/-! ## Edits keep keys distinct -/

@[simp] theorem policy_assign (s : Store) (key value : Text) :
    (s.assign key value).policy = s.policy := rfl

@[simp] theorem policy_erase (s : Store) (key : Text) : (s.erase key).policy = s.policy := by
  unfold erase
  split <;> rfl

@[simp] theorem policy_apply (s : Store) (e : Edit) : (s.apply e).policy = s.policy := by
  unfold apply
  split <;> simp

@[simp] theorem policy_run (s : Store) (edits : List Edit) : (s.run edits).policy = s.policy := by
  induction edits generalizing s with
  | nil => rfl
  | cons e edits ih => exact (ih (s.apply e)).trans (s.policy_apply e)

theorem distinct_assign {s : Store} (h : s.Distinct) (key value : Text) :
    (s.assign key value).Distinct := by
  rw [Distinct, Policy.Distinct, ((entries_assign_perm h key value).map _).nodup_iff]
  exact Policy.distinct_upsert h key value

theorem distinct_erase {s : Store} (h : s.Distinct) (key : Text) : (s.erase key).Distinct := by
  unfold erase
  split
  · exact h.sublist ((List.eraseIdx_sublist _ _).map _)
  · exact h

theorem distinct_apply {s : Store} (h : s.Distinct) (e : Edit) : (s.apply e).Distinct := by
  unfold apply
  split
  · exact h
  · exact distinct_assign h _ _
  · exact distinct_erase h _

theorem distinct_run {s : Store} (h : s.Distinct) (edits : List Edit) : (s.run edits).Distinct := by
  induction edits generalizing s with
  | nil => exact h
  | cons e edits ih => exact ih (distinct_apply h e)

end Store

end PropertyConfig
