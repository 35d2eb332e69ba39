import Mathlib.Data.List.Find
import PropertyConfig.Proofs.Store.OrderedMap

/-!
# Copying a store into one of another policy

A store is merged into another one by setting its entries there one after the other, and it is the
policy of the target that says what this comes to. Entries that are different keys in the source can
be the same key in the target, and setting a blank value can delete what an entry before it has
brought in. The last one counts (`get?_run_set`). Main statement: `Reachable.merge_across_policies`.
-/

namespace PropertyConfig

/-- The value that a key is given by setting it to a value: none, if this removes the key. -/
def Policy.kept? (p : Policy) (value : Text) : Option Text :=
  if p.allowBlank = false ∧ Text.isBlank value then none else some value

namespace Store

variable {s other : Store}

/-! ## The last entry counts -/

theorem get?_set (h : s.Distinct) {c : Char} (hmarker : isRemovalMarker c = false)
    (rest value k : Text) :
    (s.set (c :: rest) value).get? k =
      if s.policy.sameKey (c :: rest) k then s.policy.kept? value else s.get? k := by
  have hedit := deletes_or_defines_set h hmarker rest value
  have hpolicy : (s.set (c :: rest) value).policy = s.policy := policy_apply s _
  have hdistinct : (s.set (c :: rest) value).Distinct := distinct_apply h _
  have hother : ¬ s.policy.sameKey (c :: rest) k →
      s.policy.fold k ≠ s.policy.fold (c :: rest) :=
    fun hsame heq => hsame (Policy.sameKey_iff.2 heq.symm)
  rw [get?_eq_lookup hdistinct, get?_eq_lookup h, hpolicy, Policy.kept?]
  by_cases hblank : s.policy.allowBlank = false ∧ Text.isBlank value
  · rw [if_pos hblank] at hedit ⊢
    rw [hedit.toFinmap_eq]
    by_cases hsame : s.policy.sameKey (c :: rest) k
    · rw [if_pos hsame, ← Policy.sameKey_iff.1 hsame, Finmap.lookup_erase]
    · rw [if_neg hsame, Finmap.lookup_erase_ne (hother hsame)]
  · rw [if_neg hblank] at hedit ⊢
    rw [hedit.toFinmap_eq]
    by_cases hsame : s.policy.sameKey (c :: rest) k
    · rw [if_pos hsame, ← Policy.sameKey_iff.1 hsame, Finmap.lookup_insert]
    · rw [if_neg hsame, Finmap.lookup_insert_of_ne _ (hother hsame)]

/-- Of the entries that are set one after the other, the last one with a key gives it its value. -/
theorem get?_run_set (h : s.Distinct) {added : List Entry}
    (hadded : ∀ e ∈ added, ∃ c rest, e.1 = c :: rest ∧ isRemovalMarker c = false) (k : Text) :
    (s.run (added.map fun (key, value) => .set key value)).get? k =
      match (added.filter fun e => s.policy.sameKey e.1 k).getLast? with
      | some e => s.policy.kept? e.2
      | none => s.get? k := by
  induction added generalizing s with
  | nil => rfl
  | cons e added ih =>
    obtain ⟨⟨c, rest, hkey, hmarker⟩, hrest⟩ := List.forall_mem_cons.1 hadded
    have hpolicy : (s.set e.1 e.2).policy = s.policy := policy_apply s _
    have ih := ih (s := s.set e.1 e.2) (distinct_apply h _) hrest
    have hset := get?_set h hmarker rest e.2 k
    rw [← hkey] at hset
    rw [hpolicy, hset] at ih
    rw [List.map_cons, run, List.foldl_cons, ← set, ← run, ih, List.filter_cons]
    cases hsame : s.policy.sameKey e.1 k with
    | true =>
      rw [if_pos rfl, if_pos rfl, List.getLast?_cons]
      cases (added.filter fun e => s.policy.sameKey e.1 k).getLast? <;> rfl
    | false => rfl

/-! ## The name that is copied -/

/-- No key is the name under another spelling. -/
def PlainlyNamed (s : Store) : Prop :=
  ∀ key ∈ s.keys, Text.sameLetters key nameKey → key = nameKey

instance (s : Store) : Decidable s.PlainlyNamed :=
  inferInstanceAs (Decidable (∀ key ∈ s.keys, Text.sameLetters key nameKey → key = nameKey))

theorem PlainlyNamed.sameKey_eq (h : other.PlainlyNamed) (p : Policy) {e : Entry}
    (he : e ∈ other.entries) : p.sameKey e.1 nameKey = (e.1 == nameKey) := by
  by_cases hkey : e.1 = nameKey
  · rw [hkey, BEq.rfl, Policy.sameKey_iff]
  · have hletters : Text.sameLetters e.1 nameKey = false := by
      rw [Bool.eq_false_iff]
      exact fun hsame => hkey (h e.1 (List.mem_map_of_mem he) hsame)
    simp [Policy.sameKey, hkey, hletters]

theorem PlainlyNamed.name?_eq (h : other.PlainlyNamed) :
    other.name? = (other.entries.find? (·.1 == nameKey)).map Prod.snd := by
  have hposition : other.policy.position? other.keys nameKey =
      other.keys.findIdx? (· == nameKey) := by
    rw [Policy.position?]
    cases hspelled : other.keys.findIdx? (· == nameKey) with
    | some i => rfl
    | none =>
      -- where the name does not stand as it is spelled, it does not stand at all
      rw [List.findIdx?_eq_none_iff] at hspelled
      have hletters : other.keys.findIdx? (Text.sameLetters · nameKey) = none := by
        rw [List.findIdx?_eq_none_iff]
        intro key hkey
        rw [Bool.eq_false_iff]
        intro hsame
        simpa [h key hkey hsame] using hspelled key hkey
      simp [hletters]
  rw [name?, get?, entry?, hposition, keys, List.findIdx?_map, List.find?_eq_bind_findIdx?_getElem?]
  rfl

theorem ownName?_eq (s : Store) :
    s.ownName? = (s.entries.find? (·.1 == nameKey)).map Prod.snd := by
  rw [ownName?]
  induction s.entries with
  | nil => rfl
  | cons e entries ih =>
    rw [List.lookup_cons, List.find?_cons, ih]
    by_cases hkey : e.1 = nameKey
    · simp [hkey]
    · rw [beq_false_of_ne hkey, beq_false_of_ne (Ne.symm hkey)]

/-- Where no key is there twice, one entry at most has a key. -/
theorem filter_key_eq {entries : List Entry} (h : (entries.map Prod.fst).Nodup) (key : Text) :
    entries.filter (·.1 == key) = (entries.find? (·.1 == key)).toList := by
  induction entries with
  | nil => rfl
  | cons e entries ih =>
    obtain ⟨hnew, hrest⟩ := List.nodup_cons.1 h
    rw [List.filter_cons, List.find?_cons]
    by_cases hkey : e.1 = key
    · have hnone : entries.filter (·.1 == key) = [] := by
        rw [List.filter_eq_nil_iff]
        intro d hd heq
        exact hnew (hkey ▸ beq_iff_eq.1 heq ▸ List.mem_map_of_mem hd)
      simp [hkey, hnone]
    · rw [beq_false_of_ne hkey]
      exact ih hrest

/-! ## Merging -/

/-- **Merging across policies.** Let operations lead to two stores, to the target while letter case
counts, or does not count, all the time, and let the source have no other spelling of the name.
After a merge a key other than the name has the value of the last entry of the source with this key,
as far as the target counts keys as the same, or none, if the target does not keep the value;
without such an entry it has the value that it had. The keys of the target that stay there all the
time keep their order, and new ones stand behind them. If the name is merged, the target takes over
that of the source, if there is one and as far as the target keeps its value; otherwise the target
keeps its own. What is reported is the name of the source. -/
theorem Reachable.merge_across_policies {ignoreCase : Bool} {allowed : Policy → Prop}
    (h : s.Reachable (·.ignoreCase = ignoreCase)) (hother : other.Reachable allowed)
    (hnamed : other.PlainlyNamed) (withName : Bool) :
    (∀ k, s.policy.sameKey k nameKey = false →
      (s.merge other withName).store.get? k =
        match (other.entries.filter fun e => s.policy.sameKey e.1 k).getLast? with
        | some e => s.policy.kept? e.2
        | none => s.get? k) ∧
    (∃ added, (s.merge other withName).store.ordinaryKeys =
      s.ordinaryKeys.filter (s.keeps (other.copying withName)) ++ added) ∧
    (s.merge other withName).store.name? =
      (match if withName then other.name? else none with
        | some name => s.policy.kept? name
        | none => s.name?) ∧
    (s.merge other withName).name = other.name? := by
  have hget : ∀ k, (s.merge other withName).store.get? k =
      match ((other.entries.filter fun e => withName || e.1 != nameKey).filter
        fun e => s.policy.sameKey e.1 k).getLast? with
      | some e => s.policy.kept? e.2
      | none => s.get? k := fun k =>
    get?_run_set h.distinct (fun e he =>
      hother.wellKeyed e.1 (List.mem_map_of_mem (List.mem_filter.1 he).1)) k
  refine ⟨fun k hk => ?_, exists_ordinaryKeys_run h.distinct _, ?_,
    (ownName?_eq other).trans hnamed.name?_eq.symm⟩
  · have hkept : (other.entries.filter fun e => withName || e.1 != nameKey).filter
          (fun e => s.policy.sameKey e.1 k) =
        other.entries.filter fun e => s.policy.sameKey e.1 k := by
      rw [List.filter_filter]
      refine List.filter_congr fun e _ => ?_
      by_cases hkey : e.1 = nameKey
      · have hother : s.policy.sameKey nameKey k = false := by
          rw [Policy.sameKey_eq_false_iff] at hk ⊢
          exact fun heq => hk heq.symm
        rw [hkey, hother, Bool.false_and]
      · simp [hkey]
    rw [hget, hkept]
  · have hname : other.entries.filter (fun e => s.policy.sameKey e.1 nameKey) =
        (other.entries.find? (·.1 == nameKey)).toList := by
      rw [← filter_key_eq hother.nodup_keys]
      exact List.filter_congr fun e he => hnamed.sameKey_eq s.policy he
    rw [name?, hget, List.filter_comm, hname, hnamed.name?_eq]
    cases hfound : other.entries.find? (·.1 == nameKey) with
    | none => cases withName <;> rfl
    | some e =>
      have hkey : e.1 = nameKey := by simpa using List.find?_some hfound
      cases withName with
      | true => rfl
      | false =>
        rw [Option.toList_some, List.filter_cons_of_neg (by simp [hkey])]
        rfl

/-- A store in which letter case does not count and blank values are not kept, named `t`, with
`x=0`, `A=1` and `y=2`. -/
def strict : Store :=
  ((({ policy := { ignoreCase := true, allowBlank := false } : Store }.perform
    (.set nameKey ['t'])).perform (.set ['x'] ['0'])).perform (.set ['A'] ['1'])).perform
    (.set ['y'] ['2'])

/-- A store in which letter case counts and blank values are kept, named `u`, with `a=`, `A=5`,
`B=3` and `b=`. -/
def lenient : Store :=
  (((({ : Store }.perform (.set ['a'] [])).perform (.set ['A'] ['5'])).perform
    (.set ['B'] ['3'])).perform (.set ['b'] [])).perform (.set nameKey ['u'])

/-- Of the entries that have the same key in the target, the last one counts: `A=5`, and a blank
value that is not kept for `b`. In between `A` is deleted, so it loses its place. -/
theorem merge_across_policies_lenient :
    (strict.merge lenient true).store.get? ['a'] = some ['5'] ∧
    (strict.merge lenient true).store.get? ['b'] = none ∧
    (strict.merge lenient true).store.get? ['x'] = some ['0'] ∧
    (strict.merge lenient true).store.name? = some ['u'] ∧
    (strict.merge lenient false).store.name? = some ['t'] ∧
    (strict.merge lenient true).store.ordinaryKeys = [['x'], ['y'], ['A']] := by
  have hstrict : strict.Reachable (·.ignoreCase = true) :=
    .perform _ (.perform _ (.perform _ (.perform _ (.empty rfl))))
  have hlenient : lenient.Reachable (·.allowBlank = true) :=
    .perform _ (.perform _ (.perform _ (.perform _ (.perform _ (.empty rfl)))))
  have hnamed : lenient.PlainlyNamed := by decide
  obtain ⟨hget, -, hname, -⟩ := hstrict.merge_across_policies hlenient hnamed true
  obtain ⟨-, -, hkept, -⟩ := hstrict.merge_across_policies hlenient hnamed false
  exact ⟨hget ['a'] (by decide), hget ['b'] (by decide), hget ['x'] (by decide), hname, hkept,
    by decide⟩

end Store

end PropertyConfig
