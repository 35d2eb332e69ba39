import PropertyConfig.Proofs.Store.Keys
import PropertyConfig.Proofs.Text.Letters

/-!
# Merging

Property lines make entries that are set as they are, whatever the policy (`Settable`). Merging a
store of such entries lays them over the others (`merge_eq_overlay`): keys that are there keep their
places and take the values laid over them, the others follow in their order (`keys_overlay`). A
store that a load makes has besides them only the two reserved keys (`Loadable`).
-/

namespace PropertyConfig

/-- An entry as property lines make it; setting it never comes down to anything else. -/
def Policy.Settable (p : Policy) (e : Entry) : Prop :=
  (∃ c rest, e.1 = c :: rest ∧ c ≠ '%' ∧ isRemovalMarker c = false) ∧
    (p.allowBlank = true ∨ Text.isBlank e.2 = false)

namespace Policy

variable {p : Policy}

theorem Settable.action {e : Entry} (h : p.Settable e) :
    p.action (.set e.1 e.2) = .assign e.1 e.2 := by
  obtain ⟨⟨c, rest, hkey, -, hmarker⟩, hvalue⟩ := h
  rw [hkey]
  rcases hvalue with hvalue | hvalue <;> simp [Policy.action, hmarker, hvalue]

theorem fold_cons_ne {c : Char} (hc : c ≠ '%') (t rest : Text) :
    p.fold (c :: t) ≠ p.fold ('%' :: rest) := by
  have hlower : Char.toLower '%' = '%' := by decide
  unfold fold
  split
  · intro heq
    simp only [Text.toLower, List.map_cons, List.cons.injEq, hlower] at heq
    exact hc (Text.eq_of_toLower_eq (by decide) heq.1)
  · simp [hc]

theorem Settable.fold_ne {e : Entry} (h : p.Settable e) {rest : Text} :
    p.fold e.1 ≠ p.fold ('%' :: rest) := by
  obtain ⟨⟨c, t, hkey, hc, -⟩, -⟩ := h
  rw [hkey]
  exact fold_cons_ne hc t rest

theorem Settable.ne_nameKey {e : Entry} (h : p.Settable e) : e.1 ≠ nameKey := fun heq =>
  h.fold_ne (by rw [heq]; rfl)

theorem Settable.fold_ne_configUrlKey {e : Entry} (h : p.Settable e) :
    p.fold e.1 ≠ p.fold configUrlKey := h.fold_ne

theorem settable_upsert {key value : Text} (h : p.Settable (key, value)) {entries : List Entry}
    (hentries : ∀ e ∈ entries, p.Settable e) : ∀ e ∈ p.upsert key value entries, p.Settable e :=
  forall_mem_upsert h hentries fun _ hd _ => ⟨hd.1, h.2⟩

end Policy

namespace Store

theorem set_eq_assign {s : Store} {e : Entry}
    (h : s.policy.action (.set e.1 e.2) = .assign e.1 e.2) : s.set e.1 e.2 = s.assign e.1 e.2 := by
  rw [set, apply, h]

theorem set_of_assigned {s : Store} (h : s.Distinct) {e : Entry}
    (haction : s.policy.action (.set e.1 e.2) = .assign e.1 e.2) (hname : e.1 ≠ nameKey) :
    s.set e.1 e.2 = { s with entries := s.policy.upsert e.1 e.2 s.entries } := by
  rw [set_eq_assign haction, ← entries_assign h hname]
  rfl

/-- Assignments to keys other than the name lay their entries over those that are there. -/
theorem run_of_assigned {s : Store} (h : s.Distinct) {added : List Entry}
    (hadded : ∀ e ∈ added, s.policy.action (.set e.1 e.2) = .assign e.1 e.2 ∧ e.1 ≠ nameKey) :
    s.run (added.map fun (key, value) => .set key value) =
      { s with entries := s.policy.overlay s.entries added } := by
  induction added generalizing s with
  | nil => rfl
  | cons e added ih =>
    obtain ⟨haction, hname⟩ := hadded e List.mem_cons_self
    have hset := set_of_assigned h haction hname
    have hdistinct : (s.set e.1 e.2).Distinct := distinct_apply h _
    have hpolicy : (s.set e.1 e.2).policy = s.policy := policy_apply s _
    rw [List.map_cons, run, List.foldl_cons]
    have ih := ih hdistinct fun d hd => hpolicy ▸ hadded d (List.mem_cons_of_mem _ hd)
    rw [run, set] at ih
    rw [ih, ← set, hset]
    rfl

theorem set_of_settable {s : Store} (h : s.Distinct) {e : Entry} (he : s.policy.Settable e) :
    s.set e.1 e.2 = { s with entries := s.policy.upsert e.1 e.2 s.entries } :=
  set_of_assigned h he.action he.ne_nameKey

theorem run_of_settable {s : Store} (h : s.Distinct) {added : List Entry}
    (hadded : ∀ e ∈ added, s.policy.Settable e) :
    s.run (added.map fun (key, value) => .set key value) =
      { s with entries := s.policy.overlay s.entries added } :=
  run_of_assigned h fun e he => ⟨(hadded e he).action, (hadded e he).ne_nameKey⟩

/-- Entries are merged by laying them over the others; the name is left out. -/
theorem merge_eq_overlay {s other : Store} (h : s.Distinct)
    (hother : ∀ e ∈ other.entries, e.1 ≠ nameKey → s.policy.Settable e) :
    (s.merge other false).store =
      { s with
        entries := s.policy.overlay s.entries (other.entries.filter (·.1 != nameKey)) } := by
  have hadded : ∀ e ∈ other.entries.filter (·.1 != nameKey), s.policy.Settable e := by
    intro e he
    obtain ⟨hmem, hname⟩ := List.mem_filter.1 he
    exact hother e hmem (by simpa using hname)
  exact run_of_settable h hadded

theorem merge_of_settable {s other : Store} (h : s.Distinct)
    (hother : ∀ e ∈ other.entries, s.policy.Settable e) :
    (s.merge other false).store =
      { s with entries := s.policy.overlay s.entries other.entries } := by
  have hfilter : other.entries.filter (·.1 != nameKey) = other.entries := by
    rw [List.filter_eq_self]
    intro e he
    simpa using (hother e he).ne_nameKey
  rw [merge_eq_overlay h fun e he _ => hother e he, hfilter]

end Store

/-! ## Keys after a merge -/

namespace Policy

variable {p : Policy}

/-- The keys that are there keep their places, the new ones follow. -/
theorem keys_overlay {added : List Entry} (h : p.Distinct added) (entries : List Entry) :
    (p.overlay entries added).map Prod.fst =
      entries.map Prod.fst ++
        (added.map Prod.fst).filter
          (fun key => p.fold key ∉ entries.map fun e => p.fold e.1) := by
  induction added generalizing entries with
  | nil => simp [overlay]
  | cons e added ih =>
    obtain ⟨hne, hadded⟩ := distinct_cons.1 h
    -- the keys behind `e` are others, so they are new or not as they were without it
    have hstill : (added.map Prod.fst).filter
          (fun key => p.fold key ∉ (p.upsert e.1 e.2 entries).map fun e => p.fold e.1) =
        (added.map Prod.fst).filter
          (fun key => p.fold key ∉ entries.map fun e => p.fold e.1) := by
      refine List.filter_congr fun key hkey => ?_
      obtain ⟨d, hd, rfl⟩ := List.mem_map.1 hkey
      rw [folds_upsert]
      split
      · simp
      · simp [hne d hd]
    rw [overlay, ih hadded, hstill, List.map_cons, map_upsert fun key => key, List.append_assoc]
    by_cases hmem : p.fold e.1 ∈ entries.map fun e => p.fold e.1
    · rw [if_pos hmem, List.filter_cons_of_neg (by simpa using hmem), List.nil_append]
    · rw [if_neg hmem, List.filter_cons_of_pos (by simpa using hmem), List.singleton_append]

/-- Leaving out entries with other keys does not change the value of a key. -/
theorem value?_filter {key : Text} {keep : Entry → Bool} {entries : List Entry}
    (h : ∀ e ∈ entries, p.fold e.1 = p.fold key → keep e = true) :
    p.value? key (entries.filter keep) = p.value? key entries := by
  induction entries with
  | nil => rfl
  | cons e rest ih =>
    have ih := ih fun d hd => h d (List.mem_cons_of_mem _ hd)
    by_cases hsame : p.fold e.1 = p.fold key
    · rw [List.filter_cons_of_pos (h e List.mem_cons_self hsame), value?, value?, if_pos hsame,
        if_pos hsame]
    · cases hkeep : keep e with
      | true => rw [List.filter_cons_of_pos hkeep, value?, value?, if_neg hsame, if_neg hsame, ih]
      | false => rw [List.filter_cons_of_neg (by simp [hkeep]), value?, if_neg hsame, ih]

end Policy

/-! ## Stores that loads make -/

/-- An entry of one of the two reserved keys, or one as property lines make it. -/
def Policy.Loadable (p : Policy) (e : Entry) : Prop :=
  e.1 = configUrlKey ∨ e.1 = nameKey ∨ p.Settable e

namespace Policy

variable {p : Policy}

theorem fold_nameKey_ne : p.fold nameKey ≠ p.fold configUrlKey := by
  unfold fold
  split <;> decide

/-- The spelling of a reserved key in a store is its own. -/
theorem Loadable.eq_of_fold {e : Entry} (h : p.Loadable e) {key : Text}
    (hkey : key = configUrlKey ∨ key = nameKey) (hfold : p.fold e.1 = p.fold key) : e.1 = key := by
  rcases h with h | h | h <;> rcases hkey with rfl | rfl
  · exact h
  · exact absurd (h ▸ hfold).symm fold_nameKey_ne
  · exact absurd (h ▸ hfold) fold_nameKey_ne
  · exact h
  · exact absurd hfold h.fold_ne
  · exact absurd hfold h.fold_ne

theorem loadable_upsert {key value : Text} (h : p.Loadable (key, value)) {entries : List Entry}
    (hentries : ∀ e ∈ entries, p.Loadable e) : ∀ e ∈ p.upsert key value entries, p.Loadable e := by
  refine forall_mem_upsert h hentries fun d hd hsame => ?_
  rcases h with h | h | h
  · exact .inl (hd.eq_of_fold (.inl rfl) (hsame.trans (congrArg p.fold h)))
  · exact .inr (.inl (hd.eq_of_fold (.inr rfl) (hsame.trans (congrArg p.fold h))))
  · rcases hd with hd | hd | hd
    · exact .inl hd
    · exact .inr (.inl hd)
    · exact .inr (.inr ⟨hd.1, h.2⟩)

/-- What comes down to an assignment assigns what it says, and this is such that the policy leaves
it as it is. -/
theorem action_set_eq_assign {key value key' value' : Text}
    (h : p.action (.set key value) = .assign key' value') :
    key' = key ∧ value' = value ∧ (∃ c rest, key = c :: rest ∧ isRemovalMarker c = false) ∧
      (p.allowBlank = true ∨ Text.isBlank value = false) := by
  cases key with
  | nil => cases h
  | cons c rest =>
    cases hmarker : isRemovalMarker c with
    | true => simp [action, hmarker] at h
    | false =>
      cases hvalue : !p.allowBlank && Text.isBlank value with
      | true => simp [action, hmarker, hvalue] at h
      | false =>
        simp only [action, hmarker, hvalue, Bool.false_eq_true, if_false, Action.assign.injEq] at h
        obtain ⟨rfl, rfl⟩ := h
        refine ⟨rfl, rfl, ⟨c, rest, rfl, hmarker⟩, ?_⟩
        cases hblank : p.allowBlank with
        | true => exact .inl rfl
        | false =>
          rw [hblank] at hvalue
          exact .inr hvalue

end Policy

/-- A store as loads of that policy make it. -/
structure Store.Loaded (p : Policy) (s : Store) : Prop where
  policy_eq : s.policy = p
  distinct : s.Distinct
  loadable : ∀ e ∈ s.entries, p.Loadable e

namespace Store.Loaded

variable {p : Policy} {s : Store}

theorem empty (p : Policy) : Loaded p { policy := p } :=
  ⟨rfl, List.nodup_nil, fun _ he => absurd he List.not_mem_nil⟩

theorem emptied (h : s.Loaded p) : s.emptied.Loaded p :=
  ⟨h.policy_eq, List.nodup_nil, fun _ he => absurd he List.not_mem_nil⟩

theorem erase (h : s.Loaded p) (key : Text) : (s.erase key).Loaded p := by
  refine ⟨(s.policy_erase key).trans h.policy_eq, distinct_erase h.distinct key, fun e he => ?_⟩
  unfold Store.erase at he
  split at he
  · exact h.loadable e ((List.eraseIdx_sublist _ _).subset he)
  · exact h.loadable e he

theorem assign (h : s.Loaded p) {key value : Text} (hkey : p.Loadable (key, value)) :
    (s.assign key value).Loaded p := by
  refine ⟨h.policy_eq, distinct_assign h.distinct key value, fun e he => ?_⟩
  have he := (entries_assign_perm h.distinct key value).subset he
  rw [h.policy_eq] at he
  exact Policy.loadable_upsert hkey h.loadable e he

theorem remove (h : s.Loaded p) (key : Text) : (s.remove key).Loaded p := h.erase key

theorem entries_remove (h : s.Loaded p) (key : Text) :
    (s.remove key).entries = s.entries.filter fun e => p.fold e.1 ≠ p.fold key := by
  rw [Store.remove, apply, Policy.action, entries_erase h.distinct, h.policy_eq]

/-- Setting a key keeps a store so, if the assignment that it may come down to does. -/
theorem set (h : s.Loaded p) {key value : Text}
    (hkey : p.action (.set key value) = .assign key value → p.Loadable (key, value)) :
    (s.set key value).Loaded p := by
  rw [Store.set, Store.apply, h.policy_eq]
  cases haction : p.action (.set key value) with
  | nothing => exact h
  | assign key' value' =>
    obtain ⟨rfl, rfl, -, -⟩ := Policy.action_set_eq_assign haction
    exact h.assign (hkey haction)
  | erase key' => exact h.erase key'

theorem set_reserved (h : s.Loaded p) (key : ReservedKey) (value : Text) :
    (s.set key.key value).Loaded p := by
  cases key with
  | configUrl => exact h.set fun _ => .inl rfl
  | name => exact h.set fun _ => .inr (.inl rfl)

theorem set_property (h : s.Loaded p) {c : Char} (hc : c ≠ '%') (rest value : Text) :
    (s.set (c :: rest) value).Loaded p := by
  refine h.set fun haction => .inr (.inr ?_)
  obtain ⟨-, -, ⟨c', rest', hkey, hmarker⟩, hvalue⟩ := Policy.action_set_eq_assign haction
  obtain ⟨rfl, rfl⟩ := List.cons.inj hkey
  exact ⟨⟨c, rest, rfl, hc, hmarker⟩, hvalue⟩

theorem merge (h : s.Loaded p) {other : Store} (hother : other.Loaded p) (withName : Bool) :
    (s.merge other withName).store.Loaded p := by
  have hadded : ∀ e ∈ other.entries.filter (fun e => withName || e.1 != nameKey),
      p.Loadable e := fun e he => hother.loadable e (List.mem_filter.1 he).1
  rw [Store.merge, copying]
  generalize other.entries.filter (fun e => withName || e.1 != nameKey) = added at hadded
  induction added generalizing s with
  | nil => exact h
  | cons e added ih =>
    exact ih (h.set fun _ => hadded e List.mem_cons_self)
      fun d hd => hadded d (List.mem_cons_of_mem _ hd)

end Store.Loaded

end PropertyConfig
