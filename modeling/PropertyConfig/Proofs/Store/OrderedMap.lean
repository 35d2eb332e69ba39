import Mathlib.Data.Finmap
import PropertyConfig.Proofs.Store.Untouched

/-!
# Stores as ordered maps

A reachable store is a finite map from keys, spelled in whichever way, to values
(`Store.toFinmap`), along with an order of its keys. Every edit does to the map what it says: it
defines a key (`Defines`), or deletes one (`Deletes`). It keeps all other keys in their order, and a
new key comes last; only the name has a place of its own. Main statement:
`Reachable.refines_ordered_map`.
-/

namespace PropertyConfig

namespace Policy

variable (p : Policy)

/-- Entries with their keys folded. -/
def folded (entries : List Entry) : List (Σ _ : Text, Text) :=
  entries.map fun e => ⟨p.fold e.1, e.2⟩

variable {p}

theorem not_sameKey (a b : Text) : (!p.sameKey a b) = decide (p.fold a ≠ p.fold b) := by
  rw [Bool.eq_iff_iff, Bool.not_eq_true', sameKey_eq_false_iff, decide_eq_true_iff]

theorem keys_folded (entries : List Entry) :
    (p.folded entries).keys = entries.map fun e => p.fold e.1 := by
  simp [folded, List.keys]

theorem nodupKeys_folded_iff {entries : List Entry} :
    (p.folded entries).NodupKeys ↔ p.Distinct entries := by
  rw [List.NodupKeys, keys_folded, Distinct]

theorem dlookup_folded (key : Text) (entries : List Entry) :
    (p.folded entries).dlookup (p.fold key) = p.value? key entries := by
  induction entries with
  | nil => rfl
  | cons e rest ih =>
    by_cases hsame : p.fold e.1 = p.fold key
    · simp [folded, value?, hsame]
    · rw [value?, if_neg hsame, ← ih]
      exact List.dlookup_cons_ne _ _ (Ne.symm hsame)

theorem dlookup_folded_cons (f : Text) (e : Entry) (entries : List Entry) :
    (p.folded (e :: entries)).dlookup f =
      if f = p.fold e.1 then some e.2 else (p.folded entries).dlookup f := by
  by_cases hf : f = p.fold e.1
  · subst hf
    rw [if_pos rfl]
    exact List.dlookup_cons_eq _ _ _
  · rw [if_neg hf]
    exact List.dlookup_cons_ne _ _ hf

theorem dlookup_folded_upsert (f key value : Text) (entries : List Entry) :
    (p.folded (p.upsert key value entries)).dlookup f =
      if f = p.fold key then some value else (p.folded entries).dlookup f := by
  induction entries with
  | nil => exact dlookup_folded_cons f (key, value) []
  | cons e rest ih =>
    by_cases hsame : p.fold e.1 = p.fold key
    · rw [upsert, if_pos hsame, dlookup_folded_cons, dlookup_folded_cons]
      by_cases hf : f = p.fold key <;> simp [hsame, hf]
    · rw [upsert, if_neg hsame, dlookup_folded_cons, dlookup_folded_cons, ih]
      by_cases hf : f = p.fold key
      · simp [hf, Ne.symm hsame]
      · simp [hf]

theorem dlookup_folded_filter (f key : Text) (entries : List Entry) :
    (p.folded (entries.filter fun e => p.fold e.1 ≠ p.fold key)).dlookup f =
      if f = p.fold key then none else (p.folded entries).dlookup f := by
  induction entries with
  | nil => by_cases hf : f = p.fold key <;> simp [folded, hf]
  | cons e rest ih =>
    rw [dlookup_folded_cons]
    by_cases hsame : p.fold e.1 = p.fold key
    · rw [List.filter_cons_of_neg (by simpa using hsame), ih]
      by_cases hf : f = p.fold key <;> simp [hsame, hf]
    · rw [List.filter_cons_of_pos (by simpa using hsame), dlookup_folded_cons, ih]
      by_cases hf : f = p.fold key
      · simp [hf, Ne.symm hsame]
      · simp [hf]

end Policy

namespace Store

/-- The map from keys to values. All spellings of a key stand for one. -/
def toFinmap (s : Store) : Finmap fun _ : Text => Text := (s.policy.folded s.entries).toFinmap

variable {s : Store}

theorem lookup_toFinmap (f : Text) : s.toFinmap.lookup f = (s.policy.folded s.entries).dlookup f :=
  Finmap.dlookup_list_toFinmap f _

theorem keys_toFinmap (s : Store) :
    s.toFinmap.keys = (s.entries.map fun e => s.policy.fold e.1).toFinset := by
  ext f
  rw [Finmap.mem_keys, toFinmap, Finmap.mem_list_toFinmap, List.mem_toFinset, ← Policy.keys_folded,
    List.mem_keys]

theorem get?_eq_lookup (h : s.Distinct) (key : Text) :
    s.get? key = s.toFinmap.lookup (s.policy.fold key) := by
  rw [get?_eq_value? h, lookup_toFinmap, Policy.dlookup_folded]

theorem contains_iff_mem (h : s.Distinct) (key : Text) :
    s.contains key ↔ s.policy.fold key ∈ s.toFinmap := by
  rw [contains_iff h, ← Finmap.mem_keys, keys_toFinmap, List.mem_toFinset]

theorem card_keys_toFinmap (h : s.Distinct) : s.toFinmap.keys.card = s.entries.length := by
  rw [keys_toFinmap, List.toFinset_card_of_nodup h, List.length_map]

/-! ## Deleting and defining -/

/-- The keys other than the name, as they are spelled and in their order. -/
def ordinaryKeys (s : Store) : List Text := s.keys.filter fun key => !s.policy.sameKey key nameKey

/-- Going from the first store to the second deletes a key. All others keep their places. -/
structure Deletes (s s' : Store) (key : Text) : Prop where
  toFinmap_eq : s'.toFinmap = s.toFinmap.erase (s.policy.fold key)
  keys_eq : s'.keys = s.keys.filter fun k => !s.policy.sameKey k key

/-- Going from the first store to the second gives a key its value. A key that is there keeps its
spelling and its place, and a new one comes last; the name has a place of its own. -/
structure Defines (s s' : Store) (key value : Text) : Prop where
  toFinmap_eq : s'.toFinmap = s.toFinmap.insert (s.policy.fold key) value
  keys_perm : s'.keys.Perm (if s.contains key then s.keys else s.keys ++ [key])
  ordinaryKeys_eq : s'.ordinaryKeys =
    if s.contains key || s.policy.sameKey key nameKey then s.ordinaryKeys
    else s.ordinaryKeys ++ [key]

theorem deletes_erase (h : s.Distinct) (key : Text) : s.Deletes (s.erase key) key where
  toFinmap_eq := by
    refine Finmap.ext_lookup fun f => ?_
    rw [lookup_toFinmap, policy_erase, entries_erase h, Policy.dlookup_folded_filter]
    by_cases hf : f = s.policy.fold key
    · rw [if_pos hf, hf, Finmap.lookup_erase]
    · rw [if_neg hf, Finmap.lookup_erase_ne hf, lookup_toFinmap]
  keys_eq := by
    rw [keys, keys, entries_erase h, List.filter_map]
    exact congrArg _ (List.filter_congr fun e _ => (Policy.not_sameKey _ _).symm)

theorem ordinaryKeys_assign_nameKey (h : s.Distinct) (value : Text) :
    (s.assign nameKey value).ordinaryKeys = s.ordinaryKeys := by
  have hsame : s.policy.sameKey nameKey nameKey = true := Policy.sameKey_iff.2 rfl
  rw [ordinaryKeys, keys_assign, policy_assign]
  cases hi : s.policy.position? s.keys nameKey with
  | none => simp [ordinaryKeys, hsame]
  | some i =>
    simp only [if_true]
    refine filter_front fun k hk => ?_
    rw [keys, Policy.position?_eq h] at hi
    obtain ⟨hlt, hfound, -⟩ := List.findIdx?_eq_some_iff_getElem.1 hi
    rw [keys, List.getElem?_map, List.getElem?_eq_getElem hlt] at hk
    obtain rfl := Option.some.inj hk
    rw [Bool.not_eq_false', Policy.sameKey_iff]
    simpa using hfound

theorem keys_upsert (h : s.Distinct) (key value : Text) :
    (s.policy.upsert key value s.entries).map Prod.fst =
      if s.contains key then s.keys else s.keys ++ [key] := by
  rw [Policy.map_upsert fun key => key]
  by_cases hmem : s.contains key
  · rw [if_pos hmem, if_pos ((contains_iff h key).1 hmem), List.append_nil]
    rfl
  · rw [if_neg hmem, if_neg fun hfold => hmem ((contains_iff h key).2 hfold)]
    rfl

theorem defines_assign (h : s.Distinct) (key value : Text) :
    s.Defines (s.assign key value) key value where
  toFinmap_eq := by
    have hnodup := Policy.nodupKeys_folded_iff.2 (distinct_assign h key value)
    refine Finmap.ext_lookup fun f => ?_
    rw [lookup_toFinmap, List.perm_dlookup f hnodup ((entries_assign_perm h key value).map _)]
    show (s.policy.folded (s.policy.upsert key value s.entries)).dlookup f = _
    rw [Policy.dlookup_folded_upsert]
    by_cases hf : f = s.policy.fold key
    · rw [if_pos hf, hf, Finmap.lookup_insert]
    · rw [if_neg hf, Finmap.lookup_insert_of_ne _ hf, lookup_toFinmap]
  keys_perm := by
    rw [← keys_upsert h key value]
    exact (entries_assign_perm h key value).map Prod.fst
  ordinaryKeys_eq := by
    by_cases hname : key = nameKey
    · have hsame : s.policy.sameKey key nameKey = true := Policy.sameKey_iff.2 (by rw [hname])
      rw [hsame, Bool.or_true, if_pos rfl, hname]
      exact ordinaryKeys_assign_nameKey h value
    · have hkeys : (s.assign key value).keys =
          if s.contains key then s.keys else s.keys ++ [key] := by
        rw [← keys_upsert h key value, keys, entries_assign h hname]
      rw [ordinaryKeys, hkeys, policy_assign]
      cases hmem : s.contains key with
      | true => rfl
      | false =>
        cases hsame : s.policy.sameKey key nameKey <;> simp [ordinaryKeys, hsame]

end Store

/-! ## Edits -/

/-- What an edit does to a map. -/
def Policy.onFinmap (p : Policy) (m : Finmap fun _ : Text => Text) (e : Edit) :
    Finmap fun _ : Text => Text :=
  match p.action e with
  | .nothing => m
  | .assign key value => m.insert (p.fold key) value
  | .erase key => m.erase (p.fold key)

namespace Store

variable {s : Store} {e : Edit} {key value : Text}

theorem deletes_apply (h : s.Distinct) (he : s.policy.action e = .erase key) :
    s.Deletes (s.apply e) key := by
  rw [apply, he]
  exact deletes_erase h key

theorem defines_apply (h : s.Distinct) (he : s.policy.action e = .assign key value) :
    s.Defines (s.apply e) key value := by
  rw [apply, he]
  exact defines_assign h key value

theorem apply_of_nothing (he : s.policy.action e = .nothing) : s.apply e = s := by
  rw [apply, he]

theorem toFinmap_apply (h : s.Distinct) (e : Edit) :
    (s.apply e).toFinmap = s.policy.onFinmap s.toFinmap e := by
  rw [Policy.onFinmap]
  cases he : s.policy.action e with
  | nothing => rw [apply_of_nothing he]
  | assign key value => exact (defines_apply h he).toFinmap_eq
  | erase key => exact (deletes_apply h he).toFinmap_eq

/-- A run does to the map what its edits do, one after the other. -/
theorem toFinmap_run (h : s.Distinct) (edits : List Edit) :
    (s.run edits).toFinmap = edits.foldl s.policy.onFinmap s.toFinmap := by
  induction edits generalizing s with
  | nil => rfl
  | cons e edits ih =>
    have ih := ih (distinct_apply h e)
    rw [policy_apply, toFinmap_apply h] at ih
    exact ih

theorem contains_of_mem_keys (h : s.Distinct) (hkey : key ∈ s.keys) : s.contains key := by
  obtain ⟨e, he, rfl⟩ := List.mem_map.1 hkey
  exact (contains_iff h e.1).2 (List.mem_map.2 ⟨e, he, rfl⟩)

theorem Deletes.contains_iff {s' : Store} (h : s.Deletes s' key) (hs : s.Distinct)
    (hs' : s'.Distinct) (hpolicy : s'.policy = s.policy) (k : Text) :
    s'.contains k ↔ ¬ s.policy.sameKey k key ∧ s.contains k := by
  rw [contains_iff_mem hs', h.toFinmap_eq, hpolicy, Finmap.mem_erase, contains_iff_mem hs,
    Policy.sameKey_iff]

theorem Defines.contains_iff {s' : Store} (h : s.Defines s' key value) (hs : s.Distinct)
    (hs' : s'.Distinct) (hpolicy : s'.policy = s.policy) (k : Text) :
    s'.contains k ↔ s.policy.sameKey k key ∨ s.contains k := by
  rw [contains_iff_mem hs', h.toFinmap_eq, hpolicy, Finmap.mem_insert, contains_iff_mem hs,
    Policy.sameKey_iff]

/-! ## The order of keys -/

/-- An edit leaves the keys that it does not delete in their order, and adds behind them. -/
theorem exists_ordinaryKeys_apply (h : s.Distinct) (e : Edit) :
    ∃ added, (s.apply e).ordinaryKeys = s.ordinaryKeys.filter (s.apply e).contains ++ added := by
  have hthere : ∀ k ∈ s.ordinaryKeys, s.contains k := fun k hk =>
    contains_of_mem_keys h (List.mem_filter.1 hk).1
  cases he : s.policy.action e with
  | nothing =>
    refine ⟨[], ?_⟩
    rw [apply_of_nothing he, List.filter_eq_self.2 hthere, List.append_nil]
  | assign key value =>
    have hdefines := defines_apply h he
    have hall : s.ordinaryKeys.filter (s.apply e).contains = s.ordinaryKeys := by
      refine List.filter_eq_self.2 fun k hk => ?_
      exact (hdefines.contains_iff h (distinct_apply h e) (policy_apply s e) k).2
        (.inr (hthere k hk))
    rw [hall, hdefines.ordinaryKeys_eq]
    split
    · exact ⟨[], (List.append_nil _).symm⟩
    · exact ⟨[key], rfl⟩
  | erase key =>
    have hdeletes := deletes_apply h he
    refine ⟨[], ?_⟩
    rw [ordinaryKeys, hdeletes.keys_eq, policy_apply, List.append_nil, List.filter_comm]
    refine List.filter_congr fun k hk => ?_
    rw [Bool.eq_iff_iff, hdeletes.contains_iff h (distinct_apply h e) (policy_apply s e)]
    simp [hthere k hk]

/-- Whether a key is there during a run from its beginning to its end. -/
def keeps (s : Store) (edits : List Edit) (key : Text) : Bool :=
  edits.inits.all fun before => (s.run before).contains key

theorem keeps_cons (s : Store) (e : Edit) (edits : List Edit) (key : Text) :
    s.keeps (e :: edits) key = (s.contains key && (s.apply e).keeps edits key) := by
  simp only [keeps, List.inits_cons, List.all_cons, List.all_map]
  rfl

theorem contains_of_keeps {edits : List Edit} (h : s.keeps edits key) : s.contains key :=
  List.all_eq_true.1 h [] (by simp)

/-- Throughout a run the keys that stay there keep their order, and those that come in during the
run stand behind them. -/
theorem exists_ordinaryKeys_run (h : s.Distinct) (edits : List Edit) :
    ∃ added, (s.run edits).ordinaryKeys = s.ordinaryKeys.filter (s.keeps edits) ++ added := by
  induction edits generalizing s with
  | nil =>
    refine ⟨[], ?_⟩
    have hall : s.ordinaryKeys.filter (s.keeps []) = s.ordinaryKeys := by
      refine List.filter_eq_self.2 fun k hk => ?_
      simpa [keeps, run] using contains_of_mem_keys h (List.mem_filter.1 hk).1
    rw [hall, List.append_nil]
    rfl
  | cons e edits ih =>
    obtain ⟨added, hadded⟩ := ih (distinct_apply h e)
    obtain ⟨new, hnew⟩ := exists_ordinaryKeys_apply h e
    -- a key stays to the end if the first edit leaves it and it stays from there on
    refine ⟨new.filter ((s.apply e).keeps edits) ++ added, ?_⟩
    have hkept : (s.ordinaryKeys.filter (s.apply e).contains).filter ((s.apply e).keeps edits) =
        s.ordinaryKeys.filter (s.keeps (e :: edits)) := by
      rw [List.filter_filter]
      refine List.filter_congr fun k hk => ?_
      rw [keeps_cons, contains_of_mem_keys h (List.mem_filter.1 hk).1, Bool.true_and]
      cases hkeeps : (s.apply e).keeps edits k with
      | false => rfl
      | true => rw [Bool.true_and, contains_of_keeps hkeeps]
    rw [run, List.foldl_cons]
    rw [run] at hadded
    rw [hadded, hnew, List.filter_append, hkept, List.append_assoc]

/-- Setting a key adds at most this one. -/
theorem set_adds (h : s.Distinct) (key value : Text) :
    (s.set key value).ordinaryKeys.Sublist
        (s.ordinaryKeys ++ [key].filter fun k => !s.policy.sameKey k nameKey) ∧
      ∀ k, (s.set key value).contains k → s.policy.sameKey k key ∨ s.contains k := by
  have hs' := distinct_apply h (.set key value)
  have hpolicy := policy_apply s (.set key value)
  rw [set]
  cases he : s.policy.action (.set key value) with
  | nothing =>
    rw [apply_of_nothing he]
    exact ⟨List.sublist_append_left _ _, fun k hk => .inr hk⟩
  | assign key' value' =>
    obtain ⟨rfl, rfl, -⟩ := Policy.action_set_eq_assign he
    have hdefines := defines_apply h he
    refine ⟨?_, fun k hk => (hdefines.contains_iff h hs' hpolicy k).1 hk⟩
    rw [hdefines.ordinaryKeys_eq]
    split
    · exact List.sublist_append_left _ _
    · rename_i hnew
      have hordinary : s.policy.sameKey key' nameKey = false := by
        rw [Bool.or_eq_true, not_or] at hnew
        simpa using hnew.2
      simp [hordinary]
  | erase key' =>
    have hdeletes := deletes_apply h he
    refine ⟨?_, fun k hk => .inr ((hdeletes.contains_iff h hs' hpolicy k).1 hk).2⟩
    rw [ordinaryKeys, hdeletes.keys_eq, hpolicy]
    exact (List.filter_sublist.filter _).trans (List.sublist_append_left _ _)

/-- New keys that are set one after the other come in this order. -/
theorem ordinaryKeys_run_sublist (h : s.Distinct) {added : List Entry}
    (hadded : s.policy.Distinct added) (hnew : ∀ e ∈ added, ¬ s.contains e.1) :
    (s.run (added.map fun (key, value) => .set key value)).ordinaryKeys.Sublist
      (s.ordinaryKeys ++ (added.map Prod.fst).filter fun k => !s.policy.sameKey k nameKey) := by
  induction added generalizing s with
  | nil => simp [run]
  | cons e added ih =>
    obtain ⟨hne, hrest⟩ := Policy.distinct_cons.1 hadded
    obtain ⟨hsublist, hcontains⟩ := set_adds h e.1 e.2
    have hpolicy : (s.set e.1 e.2).policy = s.policy := policy_apply s _
    -- the keys behind `e` are others, so they are as new as before
    have hstill : ∀ d ∈ added, ¬ (s.set e.1 e.2).contains d.1 := by
      intro d hd hmem
      rcases hcontains d.1 hmem with hsame | hmem
      · exact hne d hd (Policy.sameKey_iff.1 hsame)
      · exact hnew d (List.mem_cons_of_mem _ hd) hmem
    have ih := ih (s := s.set e.1 e.2) (distinct_apply h _) (hpolicy ▸ hrest) hstill
    rw [hpolicy] at ih
    have happend := hsublist.append_right
      ((added.map Prod.fst).filter fun k => !s.policy.sameKey k nameKey)
    rw [List.append_assoc, ← List.filter_append] at happend
    exact ih.trans happend

theorem ordinaryKeys_subset_sublist (h : s.Distinct) (lead : Text) :
    (s.subset lead).ordinaryKeys.Sublist s.ordinaryKeys := by
  have hempty : Distinct { policy := s.policy } := List.nodup_nil
  have hfiltered : s.policy.Distinct
      (s.entries.filter fun e => s.policy.keyStartsWith lead e.1) :=
    h.sublist (List.filter_sublist.map _)
  have hrun := ordinaryKeys_run_sublist hempty hfiltered
    (by simp [contains, keys, Policy.position?])
  exact hrun.trans ((List.filter_sublist.map Prod.fst).filter _)

/-! ## Refinement -/

/-- What is seen of a store is what a map says: no key is there twice, and looking keys up and
counting them gives the same. -/
structure Refines (s : Store) (m : Finmap fun _ : Text => Text) : Prop where
  keys_pairwise : s.keys.Pairwise fun a b => ¬ s.policy.sameKey a b
  get?_eq : ∀ key, s.get? key = m.lookup (s.policy.fold key)
  contains_iff : ∀ key, s.contains key ↔ s.policy.fold key ∈ m
  length_eq : s.entries.length = m.keys.card

theorem refines_toFinmap (h : s.Distinct) : s.Refines s.toFinmap where
  keys_pairwise := by
    rw [Distinct, Policy.Distinct, List.Nodup, List.pairwise_map] at h
    rw [keys, List.pairwise_map]
    exact h.imp fun hne hsame => hne (Policy.sameKey_iff.1 hsame)
  get?_eq := get?_eq_lookup h
  contains_iff := contains_iff_mem h
  length_eq := (card_keys_toFinmap h).symm

/-- Setting a key that no other rule is about deletes it if its value is blank and may not be, and
defines it otherwise. -/
theorem deletes_or_defines_set (h : s.Distinct) {c : Char} (hmarker : isRemovalMarker c = false)
    (rest value : Text) :
    if s.policy.allowBlank = false ∧ Text.isBlank value then
      s.Deletes (s.set (c :: rest) value) (c :: rest)
    else s.Defines (s.set (c :: rest) value) (c :: rest) value := by
  split
  · rename_i hblank
    exact deletes_apply h (by simp [Policy.action, hmarker, hblank.1, hblank.2])
  · rename_i hkept
    have hkept : (!s.policy.allowBlank && Text.isBlank value) = false := by
      rw [← Bool.not_eq_true, Bool.and_eq_true, Bool.not_eq_true']
      exact hkept
    exact defines_apply h (by simp [Policy.action, hmarker, hkept])

/-- **Stores are ordered maps.** A store that operations lead to while letter case counts, or does
not count, all the time is well keyed and refines its map, in which a key is under what its
spellings have in common. Setting and removing a key do to the map, and to the order of keys, what
they say; all other operations do what their edits do one after the other. Except for the name, keys
that stay keep their order, and new ones come last. -/
theorem Reachable.refines_ordered_map {ignoreCase : Bool}
    (h : s.Reachable (·.ignoreCase = ignoreCase)) :
    (s.policy.ignoreCase = ignoreCase ∧ s.WellKeyed ∧ s.Refines s.toFinmap) ∧
    ((∀ value, s.set [] value = s) ∧
      (∀ c rest value, isRemovalMarker c → s.Deletes (s.set (c :: rest) value) rest) ∧
      (∀ c rest value, isRemovalMarker c = false →
        if s.policy.allowBlank = false ∧ Text.isBlank value then
          s.Deletes (s.set (c :: rest) value) (c :: rest)
        else s.Defines (s.set (c :: rest) value) (c :: rest) value) ∧
      ∀ key, s.Deletes (s.remove key) key) ∧
    (∀ op, (s.perform op).toFinmap = (op.edits s).foldl s.policy.onFinmap s.toFinmap ∧
      ∃ added, (s.perform op).ordinaryKeys =
        s.ordinaryKeys.filter (s.keeps (op.edits s)) ++ added) ∧
    ∀ lead, (s.subset lead).ordinaryKeys.Sublist s.ordinaryKeys := by
  have hdistinct := h.distinct
  refine ⟨⟨h.policy_allowed, h.wellKeyed, refines_toFinmap hdistinct⟩,
    ⟨fun value => rfl, fun c rest value hmarker => ?_,
      fun c rest value hmarker => deletes_or_defines_set hdistinct hmarker rest value,
      fun key => deletes_apply hdistinct rfl⟩,
    fun op => ⟨toFinmap_run hdistinct _, exists_ordinaryKeys_run hdistinct _⟩,
    ordinaryKeys_subset_sublist hdistinct⟩
  exact deletes_apply hdistinct (by simp [Policy.action, hmarker])

/-- A store in which letter case does not count, after `A=1`, `b=2` and `a=3`. -/
def respelled : Store :=
  (({ policy := { ignoreCase := true, allowBlank := false } : Store }.perform
    (.set ['A'] ['1'])).perform (.set ['b'] ['2'])).perform (.set ['a'] ['3'])

/-- The first spelling stands for the key, with the last value; a blank value deletes it, and so
does a removal marker. -/
theorem refines_ordered_map_respelled :
    respelled.entries = [(['A'], ['3']), (['b'], ['2'])] ∧
    respelled.Refines respelled.toFinmap ∧
    respelled.Defines (respelled.set ['B'] ['4']) ['B'] ['4'] ∧
    respelled.Deletes (respelled.set ['a'] [' ']) ['a'] ∧
    respelled.Deletes (respelled.set "!B".toList []) ['B'] := by
  have hreachable : respelled.Reachable (·.ignoreCase = true) :=
    .perform _ (.perform _ (.perform _ (.empty rfl)))
  obtain ⟨⟨-, -, hrefines⟩, ⟨-, hmarked, hset, -⟩, -⟩ := hreachable.refines_ordered_map
  exact ⟨by decide, hrefines, hset 'B' [] ['4'] (by decide), hset 'a' [] [' '] (by decide),
    hmarked '!' ['B'] [] (by decide)⟩

end Store

end PropertyConfig
