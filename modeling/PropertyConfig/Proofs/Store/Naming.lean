import PropertyConfig.Proofs.Store.Operations

/-!
# The place of the name

The name of a store is to stand in front of all other entries (`NameLeads`). Assigning the name's
key puts it there, but only under the spelling `%name`: where letter case does not count, another
spelling of it comes in like any other key (`Misnames`). Those are all the edits that lose the rule
(`nameLeads_apply_iff`), and no other edits are needed to keep it (`Named.nameLeads`). Main
statement: `Reachable.name_leads_iff`.
-/

namespace PropertyConfig

namespace Store

/-- The entry that the name is read from, if there is one, is the first of all. -/
def NameLeads (s : Store) : Prop :=
  ∀ found, s.entry? nameKey = some found → s.entries.head? = some found

/-- The edit gives a name under another spelling than `%name` to a store that has entries, but no
name. -/
def Misnames (s : Store) (e : Edit) : Prop :=
  ∃ key value, s.policy.action e = .assign key value ∧ key ≠ nameKey ∧
    s.policy.sameKey key nameKey ∧ s.contains nameKey = false ∧ s.entries ≠ []

/-- Stores that come of an empty one by edits none of which misnames a store. -/
inductive Named (allowed : Policy → Prop) : Store → Prop
  | empty {p} : allowed p → Named allowed { policy := p }
  | perform {s} (op : Operation) : Named allowed s →
      (∀ before e after, op.edits s = before ++ e :: after → ¬ (s.run before).Misnames e) →
      Named allowed (s.perform op)
  | subset {s} (lead : Text) : Named allowed s → Named allowed (s.subset lead)
  /-- The settings are changed. -/
  | resettle {s p} : allowed p → Named allowed s → Named allowed { s with policy := p }

variable {s : Store} {allowed : Policy → Prop}

theorem Named.reachable (h : s.Named allowed) : s.Reachable allowed := by
  induction h with
  | empty hp => exact .empty hp
  | perform op _ _ ih => exact .perform op ih
  | subset lead _ ih => exact .subset lead ih
  | resettle hp _ ih => exact .resettle hp ih

/-! ## Single edits -/

theorem nameLeads_iff_not_mem (h : s.Distinct) :
    s.NameLeads ↔ s.policy.fold nameKey ∉ (s.entries.map fun d => s.policy.fold d.1).tail := by
  rw [NameLeads, entry?_eq_find? h]
  cases hentries : s.entries with
  | nil => simp
  | cons first rest =>
    rw [Distinct, hentries, Policy.Distinct, List.map_cons, List.nodup_cons] at h
    rw [List.map_cons, List.tail_cons, List.head?_cons]
    by_cases hfirst : s.policy.fold first.1 = s.policy.fold nameKey
    · -- the name is in front, and there is no other
      rw [List.find?_cons_of_pos (by simpa using hfirst), ← hfirst]
      simp [h.1]
    · rw [List.find?_cons_of_neg (by simpa using hfirst)]
      constructor
      · intro hleads hmem
        obtain ⟨d, hd, hname⟩ := List.mem_map.1 hmem
        cases hfound : rest.find? fun d => s.policy.fold d.1 = s.policy.fold nameKey with
        | none =>
          have := List.find?_eq_none.1 hfound d hd
          simp [hname] at this
        | some found =>
          obtain rfl := Option.some.inj (hleads found hfound)
          exact hfirst (by simpa using List.find?_some hfound)
      · intro hnot found hfound
        have hname : s.policy.fold found.1 = s.policy.fold nameKey := by
          simpa using List.find?_some hfound
        exact absurd (List.mem_map.2 ⟨found, List.mem_of_find?_eq_some hfound, hname⟩) hnot

theorem nameLeads_of_head (h : s.Distinct) {first : Entry} (hhead : s.entries.head? = some first)
    (hname : s.policy.fold first.1 = s.policy.fold nameKey) : s.NameLeads := by
  obtain ⟨rest, hentries⟩ := List.head?_eq_some_iff.1 hhead
  intro found hfound
  rw [entry?_eq_find? h, hentries, List.find?_cons_of_pos (by simpa using hname)] at hfound
  rw [hhead, hfound]

/-- A name that is assigned under its own spelling comes to the front. -/
theorem nameLeads_assign_nameKey (h : s.Distinct) (value : Text) :
    (s.assign nameKey value).NameLeads := by
  have hdistinct := distinct_assign h nameKey value
  cases hi : s.policy.position? s.keys nameKey with
  | none =>
    refine nameLeads_of_head hdistinct (?_ : _ = some (nameKey, value)) rfl
    simp [assign, hi]
  | some i =>
    have hfound := hi
    rw [keys, Policy.position?_eq h] at hfound
    obtain ⟨hlt, hsame, -⟩ := List.findIdx?_eq_some_iff_getElem.1 hfound
    have hhead : (s.assign nameKey value).entries.head? = some (s.entries[i].1, value) := by
      simp [assign, hi, toFront, hlt]
    exact nameLeads_of_head hdistinct hhead (by simpa using hsame)

/-- A key other than `%name` leaves the name in front, unless it is the name under another spelling
and comes in behind other entries. -/
theorem nameLeads_assign_iff (h : s.Distinct) (hs : s.NameLeads) {key : Text} (hkey : key ≠ nameKey)
    (value : Text) :
    (s.assign key value).NameLeads ↔
      (s.policy.sameKey key nameKey → s.contains nameKey = true ∨ s.entries = []) := by
  rw [nameLeads_iff_not_mem (distinct_assign h key value), policy_assign, entries_assign h hkey,
    Policy.folds_upsert]
  simp only [← contains_iff h]
  rw [nameLeads_iff_not_mem h] at hs
  cases hentries : s.entries with
  | nil => cases s.contains key <;> simp
  | cons first rest =>
    rw [hentries, List.map_cons, List.tail_cons] at hs
    rw [List.map_cons, List.cons_append, List.tail_cons]
    by_cases hmem : s.contains key
    · -- the keys stay as they are
      have hcontains : s.policy.sameKey key nameKey → s.contains nameKey = true := by
        intro hsame
        rw [contains_iff h, ← Policy.sameKey_iff.1 hsame]
        exact (contains_iff h key).1 hmem
      rw [if_pos hmem, List.append_nil]
      exact ⟨fun _ hsame => .inl (hcontains hsame), fun _ => hs⟩
    · have hcontains : s.policy.sameKey key nameKey → ¬ s.contains nameKey := by
        intro hsame
        rw [contains_iff h, ← Policy.sameKey_iff.1 hsame]
        exact fun hkey => hmem ((contains_iff h key).2 hkey)
      rw [if_neg hmem, List.mem_append, or_iff_right hs, List.mem_singleton]
      constructor
      · intro hne hsame
        exact absurd (Policy.sameKey_iff.1 hsame).symm hne
      · intro himp heq
        have hsame := Policy.sameKey_iff.2 heq.symm
        rcases himp hsame with hname | hnil
        · exact hcontains hsame hname
        · cases hnil

theorem nameLeads_apply_iff (h : s.Distinct) (hs : s.NameLeads) (e : Edit) :
    (s.apply e).NameLeads ↔ ¬ s.Misnames e := by
  cases haction : s.policy.action e with
  | nothing =>
    rw [apply, haction]
    simp [hs, Misnames, haction]
  | assign key value =>
    rw [apply, haction]
    by_cases hkey : key = nameKey
    · subst hkey
      simp [nameLeads_assign_nameKey h, Misnames, haction]
    · simp only
      rw [nameLeads_assign_iff h hs hkey value]
      constructor
      · rintro himp ⟨key', value', hassign, -, hsame, hnew, hne⟩
        obtain ⟨rfl, rfl⟩ := Action.assign.inj (haction.symm.trans hassign)
        rcases himp hsame with hname | hnil
        · simp [hname] at hnew
        · exact hne hnil
      · intro hnot hsame
        by_contra hboth
        obtain ⟨hnew, hne⟩ := not_or.1 hboth
        exact hnot ⟨key, value, haction, hkey, hsame, by simpa using hnew, hne⟩
  | erase key =>
    have hleads : (s.erase key).NameLeads := by
      rw [nameLeads_iff_not_mem (distinct_erase h key), policy_erase, entries_erase h]
      rw [nameLeads_iff_not_mem h] at hs
      intro hmem
      exact hs ((List.filter_sublist.map _).tail.subset hmem)
    rw [apply, haction]
    simp [hleads, Misnames, haction]

/-! ## Runs -/

theorem nameLeads_run (h : s.Distinct) (hs : s.NameLeads) {edits : List Edit}
    (hedits : ∀ before e after, edits = before ++ e :: after → ¬ (s.run before).Misnames e) :
    (s.run edits).NameLeads := by
  induction edits generalizing s with
  | nil => exact hs
  | cons e edits ih =>
    have hfirst : ¬ s.Misnames e := hedits [] e edits rfl
    refine ih (distinct_apply h e) ((nameLeads_apply_iff h hs e).2 hfirst) ?_
    intro before d after hsplit
    exact hedits (e :: before) d after (by rw [hsplit, List.cons_append])

/-- The name of a subset is set first, if it leads. -/
theorem nameLeads_subset (h : s.Distinct) (hs : s.NameLeads) (lead : Text) :
    (s.subset lead).NameLeads := by
  have hempty : Distinct { policy := s.policy } := List.nodup_nil
  refine nameLeads_run hempty (by simp [NameLeads, entry?, keys, Policy.position?]) ?_
  intro before e after hsplit hmis
  obtain ⟨key, value, haction, -, hsame, -, hne⟩ := hmis
  rw [policy_run] at haction hsame
  obtain ⟨front, back, hfiltered, rfl, hback⟩ := List.map_eq_append_iff.1 hsplit
  obtain ⟨d, back, rfl, rfl, -⟩ := List.map_eq_cons_iff.1 hback
  obtain ⟨rfl, -⟩ := Policy.action_set_eq_assign haction
  cases front with
  | nil => exact hne rfl
  | cons first front =>
    -- the name would stand behind another entry, in the subset and in the store
    have htail : d ∈ (s.entries.filter fun e => s.policy.keyStartsWith lead e.1).tail := by
      simp [hfiltered]
    rw [nameLeads_iff_not_mem h, ← List.map_tail] at hs
    exact hs (List.mem_map.2 ⟨d, List.filter_sublist.tail.subset htail, Policy.sameKey_iff.1 hsame⟩)

theorem Named.nameLeads {ignoreCase : Bool} (h : s.Named (·.ignoreCase = ignoreCase)) :
    s.NameLeads := by
  induction h with
  | empty hp => simp [NameLeads, entry?, keys, Policy.position?]
  | perform op hs hop ih => exact nameLeads_run hs.reachable.distinct ih hop
  | subset lead hs ih => exact nameLeads_subset hs.reachable.distinct ih lead
  | @resettle s p hp hs ih =>
    have hpolicy : p.ignoreCase = s.policy.ignoreCase := hp.trans hs.reachable.policy_allowed.symm
    have hentry : entry? { s with policy := p } nameKey = s.entry? nameKey := by
      unfold entry?
      simp only [keys, Policy.position?, hpolicy]
    intro found hfound
    exact ih found (hentry ▸ hfound)

/-- Where letter case counts, the name has no other spelling. -/
theorem not_misnames (hcase : s.policy.ignoreCase = false) (e : Edit) : ¬ s.Misnames e := by
  rintro ⟨key, value, -, hkey, hsame, -, -⟩
  rw [Policy.sameKey, hcase] at hsame
  simp [hkey] at hsame

theorem Reachable.named (h : s.Reachable (·.ignoreCase = false)) :
    s.Named (·.ignoreCase = false) := by
  induction h with
  | empty hp => exact .empty hp
  | @perform s op h ih =>
    refine .perform op ih fun before e after _ => not_misnames ?_ e
    rw [policy_run]
    exact h.policy_allowed
  | subset lead _ ih => exact .subset lead ih
  | resettle hp _ ih => exact .resettle hp ih

/-- **The place of the name.** Let operations lead to a store while letter case counts, or does not
count, all the time. If letter case counts, or if no edit on the way misnamed a store, then the
entry that the name is read from is the first one. As long as it is, the edits that end this are
those that misname the store, and no others. -/
theorem Reachable.name_leads_iff {ignoreCase : Bool} (h : s.Reachable (·.ignoreCase = ignoreCase)) :
    (ignoreCase = false ∨ s.Named (·.ignoreCase = ignoreCase) → s.NameLeads) ∧
    (s.NameLeads → ∀ e, (s.apply e).NameLeads ↔ ¬ s.Misnames e) := by
  constructor
  · rintro (rfl | hnamed)
    · exact h.named.nameLeads
    · exact hnamed.nameLeads
  · intro hs e
    exact nameLeads_apply_iff h.distinct hs e

/-- A store in which letter case does not count, with `a=1` in it. -/
def unnamed : Store := Store.perform { policy := { ignoreCase := true } } (.set ['a'] ['1'])

theorem named_unnamed : unnamed.Named (·.ignoreCase = true) := by
  refine .perform _ (.empty rfl) fun before e after hsplit => ?_
  obtain ⟨rfl, rfl, -⟩ : before = [] ∧ e = .set ['a'] ['1'] ∧ after = [] := by
    cases before with
    | nil => simpa [Operation.edits, eq_comm] using hsplit
    | cons d before => simp [Operation.edits] at hsplit
  rintro ⟨key, value, -, -, -, -, hne⟩
  exact hne rfl

/-- A name under its own spelling leads there, and under another one it does not. -/
theorem name_leads_iff_unnamed :
    (unnamed.set nameKey ['x']).NameLeads ∧
      ¬ (unnamed.set "%NAME".toList ['x']).NameLeads := by
  obtain ⟨hleads, hedit⟩ := named_unnamed.reachable.name_leads_iff
  have hedit := hedit (hleads (.inr named_unnamed))
  constructor
  · refine (hedit (.set nameKey ['x'])).2 ?_
    rintro ⟨key, value, haction, hkey, -⟩
    obtain ⟨rfl, -⟩ := Policy.action_set_eq_assign haction
    exact hkey rfl
  · intro hlead
    refine (hedit (.set "%NAME".toList ['x'])).1 hlead ?_
    exact ⟨_, _, rfl, by decide, by decide, by decide, by decide⟩

/-- Where letter case does not count, a store with `a=1` is named by `%NAME=x`, but `a=1` stays in
front. -/
theorem name_behind_others :
    let s := unnamed.perform (.set "%NAME".toList ['x'])
    s.Reachable (·.ignoreCase = true) ∧ s.name? = some ['x'] ∧
      s.entries.head? = some (['a'], ['1']) ∧ ¬ s.NameLeads := by
  intro s
  refine ⟨.perform _ named_unnamed.reachable, by decide, by decide, fun hleads => ?_⟩
  have hfirst := hleads ("%NAME".toList, ['x']) (by decide)
  exact absurd hfirst (by decide)

end Store

end PropertyConfig
