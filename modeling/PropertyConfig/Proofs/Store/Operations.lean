import PropertyConfig.Proofs.Store.Merging
import PropertyConfig.Store.Arguments
import PropertyConfig.Store.Listing

/-!
# Operations on stores

Whatever is done to a store is a run of edits (`Operation.edits`), and a store is reachable if
operations, subsets and changes of settings lead to it from an empty one. So what holds of empty
stores and is kept by every edit holds of all reachable stores (`Reachable.invariant`): keys are not
empty and have no removal marker in front (`Reachable.wellKeyed`), no spelling is there twice
(`Reachable.nodup_keys`), the name is nowhere but in front (`Reachable.nameFirst`), and under one
policy of letter case keys are distinct (`Reachable.distinct`). Entries in such an order are the
entries of a store in which they are set (`ofEntries_eq`).
-/

namespace PropertyConfig

/-- What can be done to a store. -/
inductive Operation
  | set (key value : Text)
  | remove (key : Text)
  | removeAll (keys : List Text)
  | clear
  | merge (other : Store) (withName : Bool)
  /-- Puts in the properties that a text has in a row (`set_properties_str`). -/
  | putListing (t : Text) (withName : Bool)
  /-- Puts in the properties of a command line (`set_args`). -/
  | putArguments (arguments : List Text)

/-- What an operation comes down to. -/
def Operation.edits (s : Store) : Operation → List Edit
  | .set key value => [.set key value]
  | .remove key => [.remove key]
  | .removeAll keys => keys.map .remove
  | .clear => s.clearing
  | .merge other withName => other.copying withName
  | .putListing t withName => (Listing.read s.policy t).edits withName
  | .putArguments arguments => (Arguments.read s.policy.separators arguments).edits

namespace Store

def perform (s : Store) (op : Operation) : Store := s.run (op.edits s)

/-- Stores that come of an empty one while only some policies are in use. A copy of a store is the
store itself. -/
inductive Reachable (allowed : Policy → Prop) : Store → Prop
  | empty {p} : allowed p → Reachable allowed { policy := p }
  | perform {s} (op : Operation) : Reachable allowed s → Reachable allowed (s.perform op)
  | subset {s} (lead : Text) : Reachable allowed s → Reachable allowed (s.subset lead)
  /-- The settings are changed. -/
  | resettle {s p} : allowed p → Reachable allowed s → Reachable allowed { s with policy := p }

variable {allowed : Policy → Prop} {s : Store}

/-- What every edit keeps, a run keeps. -/
theorem run_invariant {P : Store → Prop} (hedit : ∀ s e, P s → P (s.apply e)) (h : P s)
    (edits : List Edit) : P (s.run edits) := by
  induction edits generalizing s with
  | nil => exact h
  | cons e edits ih => exact ih (hedit s e h)

/-- What holds of empty stores, and is kept by every edit and every allowed change of settings,
holds of all reachable stores. -/
theorem Reachable.invariant {P : Store → Prop} (hempty : ∀ p, P { policy := p })
    (hedit : ∀ s e, P s → P (s.apply e))
    (hresettle : ∀ s p, allowed s.policy → allowed p → P s → P { s with policy := p })
    (h : s.Reachable allowed) : allowed s.policy ∧ P s := by
  induction h with
  | empty hp => exact ⟨hp, hempty _⟩
  | @perform s op _ ih =>
    refine ⟨?_, run_invariant hedit ih.2 _⟩
    rw [Store.perform, policy_run]
    exact ih.1
  | @subset s lead _ ih =>
    refine ⟨?_, run_invariant hedit (hempty s.policy) _⟩
    rw [Store.subset, ofEntries, policy_run]
    exact ih.1
  | @resettle s p hp _ ih => exact ⟨hp, hresettle s p ih.1 hp ih.2⟩

/-! ## Keys after an edit -/

theorem keys_assign (s : Store) (key value : Text) :
    (s.assign key value).keys =
      match s.policy.position? s.keys key with
      | some i => if key = nameKey then s.keys[i]?.toList ++ s.keys.eraseIdx i else s.keys
      | none => if key = nameKey then key :: s.keys else s.keys ++ [key] := by
  have hmodify (i : Nat) : (s.entries.modify i fun e => (e.1, value)).map Prod.fst = s.keys :=
    List.ext_getElem (by simp [keys]) (by grind [keys])
  have hfront (entries : List Entry) (i : Nat) : (toFront entries i).map Prod.fst =
      (entries.map Prod.fst)[i]?.toList ++ (entries.map Prod.fst).eraseIdx i := by
    rw [toFront, List.map_append, List.eraseIdx_map, List.getElem?_map]
    cases entries[i]? <;> rfl
  rw [assign, keys]
  cases s.policy.position? s.keys key with
  | none =>
    by_cases hname : key = nameKey
    · simp [hname, keys]
    · simp [hname, keys]
  | some i =>
    by_cases hname : key = nameKey
    · simp only [hname, if_true, hfront, hmodify]
    · simp only [hname, if_false, hmodify]

theorem keys_erase (s : Store) (key : Text) :
    (s.erase key).keys =
      match s.policy.position? s.keys key with
      | some i => s.keys.eraseIdx i
      | none => s.keys := by
  rw [erase]
  cases s.policy.position? s.keys key with
  | none => rfl
  | some i => exact (List.eraseIdx_map ..).symm

theorem not_mem_of_position?_eq_none {p : Policy} {keys : List Text} {key : Text}
    (h : p.position? keys key = none) : key ∉ keys := by
  rw [Policy.position?, Option.or_eq_none_iff, List.findIdx?_eq_none_iff] at h
  intro hmem
  simpa using h.1 key hmem

theorem mem_of_mem_front {keys : List Text} {i : Nat} {k : Text}
    (h : k ∈ keys[i]?.toList ++ keys.eraseIdx i) : k ∈ keys := by
  rcases List.mem_append.1 h with h | h
  · exact List.mem_of_getElem? (Option.mem_toList.1 h)
  · exact List.eraseIdx_subset h

theorem mem_keys_assign {key value k : Text} (h : k ∈ (s.assign key value).keys) :
    k = key ∨ k ∈ s.keys := by
  rw [keys_assign] at h
  cases hi : s.policy.position? s.keys key with
  | none =>
    rw [hi] at h
    by_cases hname : key = nameKey
    · simpa [hname] using h
    · simpa [hname, or_comm] using h
  | some i =>
    rw [hi] at h
    by_cases hname : key = nameKey
    · simp only [hname, if_true] at h
      exact .inr (mem_of_mem_front h)
    · simp only [hname, if_false] at h
      exact .inr h

theorem keys_erase_sublist (s : Store) (key : Text) : (s.erase key).keys.Sublist s.keys := by
  rw [keys_erase]
  cases s.policy.position? s.keys key with
  | none => exact List.Sublist.refl _
  | some i => exact List.eraseIdx_sublist _ _

/-! ## Invariants -/

/-- No key is empty, and none has a removal marker in front. -/
def WellKeyed (s : Store) : Prop :=
  ∀ key ∈ s.keys, ∃ c rest, key = c :: rest ∧ isRemovalMarker c = false

theorem wellKeyed_apply (h : s.WellKeyed) (e : Edit) : (s.apply e).WellKeyed := by
  intro k hk
  rw [apply] at hk
  cases haction : s.policy.action e with
  | nothing =>
    rw [haction] at hk
    exact h k hk
  | assign key value =>
    rw [haction] at hk
    rcases mem_keys_assign hk with rfl | hk
    · cases e with
      | set key' value' =>
        obtain ⟨rfl, -, hkey, -⟩ := Policy.action_set_eq_assign haction
        exact hkey
      | remove key' => cases haction
    · exact h k hk
  | erase key =>
    rw [haction] at hk
    exact h k ((s.keys_erase_sublist key).subset hk)

/-- The name stands in front of all other keys, if it is there. -/
def NameFirst (s : Store) : Prop := nameKey ∉ s.keys.tail

theorem exists_keys_of_nameFirst (h : s.NameFirst) (hmem : nameKey ∈ s.keys) :
    ∃ rest, s.keys = nameKey :: rest := by
  rw [NameFirst] at h
  cases hkeys : s.keys with
  | nil => simp [hkeys] at hmem
  | cons k rest =>
    rw [hkeys, List.tail_cons] at h
    rw [hkeys, List.mem_cons, or_iff_left h] at hmem
    exact ⟨rest, by rw [hmem]⟩

theorem nameFirst_assign (h : s.NameFirst) (key value : Text) : (s.assign key value).NameFirst := by
  rw [NameFirst, keys_assign]
  by_cases hname : key = nameKey
  · subst hname
    cases hi : s.policy.position? s.keys nameKey with
    | none => simpa using not_mem_of_position?_eq_none hi
    | some i =>
      simp only [if_true]
      by_cases hmem : nameKey ∈ s.keys
      · -- the name is where it was, in front
        obtain ⟨rest, hkeys⟩ := exists_keys_of_nameFirst h hmem
        obtain rfl : 0 = i := by simpa [hkeys, Policy.position?, List.findIdx?_cons] using hi
        simpa [NameFirst, hkeys] using h
      · intro hfront
        exact hmem (mem_of_mem_front (List.mem_of_mem_tail hfront))
  · cases hi : s.policy.position? s.keys key with
    | none =>
      simp only [hname, if_false]
      intro hmem
      cases hkeys : s.keys with
      | nil => simp [hkeys] at hmem
      | cons k rest =>
        rw [NameFirst, hkeys, List.tail_cons] at h
        simp [hkeys, h, Ne.symm hname] at hmem
    | some i =>
      simp only [hname, if_false]
      exact h

theorem nameFirst_apply (h : s.NameFirst) (e : Edit) : (s.apply e).NameFirst := by
  rw [apply]
  cases s.policy.action e with
  | nothing => exact h
  | assign key value => exact nameFirst_assign h key value
  | erase key =>
    intro hmem
    exact h ((keys_erase_sublist s key).tail.subset hmem)

theorem nodup_keys_assign (h : s.keys.Nodup) (key value : Text) :
    (s.assign key value).keys.Nodup := by
  rw [keys_assign]
  cases hi : s.policy.position? s.keys key with
  | none =>
    have hnew : key ∉ s.keys := not_mem_of_position?_eq_none hi
    by_cases hname : key = nameKey
    · simp only [hname, if_true]
      exact List.nodup_cons.2 ⟨hname ▸ hnew, h⟩
    · simp only [hname, if_false]
      rw [← List.concat_eq_append]
      exact h.concat hnew
  | some i =>
    by_cases hname : key = nameKey
    · simp only [hname, if_true]
      by_cases hlt : i < s.keys.length
      · rw [List.getElem?_eq_getElem hlt]
        exact (List.getElem_cons_eraseIdx_perm hlt).nodup_iff.2 h
      · rw [List.getElem?_eq_none (Nat.le_of_not_lt hlt)]
        exact h.sublist (List.eraseIdx_sublist _ _)
    · simpa only [hname, if_false] using h

theorem nodup_keys_apply (h : s.keys.Nodup) (e : Edit) : (s.apply e).keys.Nodup := by
  rw [apply]
  cases s.policy.action e with
  | nothing => exact h
  | assign key value => exact nodup_keys_assign h key value
  | erase key => exact h.sublist (keys_erase_sublist s key)

namespace Reachable

theorem wellKeyed (h : s.Reachable allowed) : s.WellKeyed :=
  (h.invariant (P := WellKeyed) (fun _ _ hk => absurd hk List.not_mem_nil)
    (fun _ e hs => wellKeyed_apply hs e) fun _ _ _ _ hs => hs).2

theorem nodup_keys (h : s.Reachable allowed) : s.keys.Nodup :=
  (h.invariant (P := fun s => s.keys.Nodup) (fun _ => List.nodup_nil)
    (fun _ e hs => nodup_keys_apply hs e) fun _ _ _ _ hs => hs).2

theorem nameFirst (h : s.Reachable allowed) : s.NameFirst :=
  (h.invariant (P := NameFirst) (fun _ => List.not_mem_nil)
    (fun _ e hs => nameFirst_apply hs e) fun _ _ _ _ hs => hs).2

theorem policy_allowed (h : s.Reachable allowed) : allowed s.policy :=
  (h.invariant (P := fun _ => True) (fun _ => trivial) (fun _ _ _ => trivial)
    fun _ _ _ _ _ => trivial).1

/-- Under one policy of letter case no two keys are the same one. -/
theorem distinct {ignoreCase : Bool} (h : s.Reachable (·.ignoreCase = ignoreCase)) :
    s.Distinct := by
  refine (h.invariant (P := Distinct) (fun _ => List.nodup_nil)
    (fun _ e hs => distinct_apply hs e) fun s p hs hp hdistinct => ?_).2
  have hfold : p.fold = s.policy.fold := by
    funext key
    rw [Policy.fold, Policy.fold, hs, hp]
  rw [Distinct, Policy.Distinct] at hdistinct ⊢
  rwa [hfold]

end Reachable

/-! ## Entries that are set in their order -/

theorem set_emptied_of_assigned {p : Policy} {e : Entry}
    (h : p.action (.set e.1 e.2) = .assign e.1 e.2) :
    Store.set { policy := p } e.1 e.2 = { policy := p, entries := [e] } := by
  rw [set_eq_assign (s := { policy := p }) h, assign]
  simp [keys, Policy.position?]

/-- Setting entries with distinct keys, the name nowhere but in front, gives these entries. -/
theorem ofEntries_eq {p : Policy} {entries : List Entry} (hdistinct : p.Distinct entries)
    (hfirst : ∀ e ∈ entries.tail, e.1 ≠ nameKey)
    (hset : ∀ e ∈ entries, p.action (.set e.1 e.2) = .assign e.1 e.2) :
    ofEntries p entries = { policy := p, entries } := by
  cases entries with
  | nil => rfl
  | cons e rest =>
    have hone : Distinct { policy := p, entries := [e] } := by simp [Distinct, Policy.Distinct]
    have hrest : ∀ d ∈ rest, p.action (.set d.1 d.2) = .assign d.1 d.2 ∧ d.1 ≠ nameKey :=
      fun d hd => ⟨hset d (List.mem_cons_of_mem _ hd), hfirst d hd⟩
    rw [ofEntries, List.map_cons, run, List.foldl_cons, ← set,
      set_emptied_of_assigned (hset e List.mem_cons_self), ← run, run_of_assigned hone hrest]
    exact congrArg _ (Policy.overlay_of_distinct hdistinct)

end Store

end PropertyConfig
