import PropertyConfig.Proofs.Store.OrderedMap
import PropertyConfig.Store.Watched

/-!
# Mirrors of watched stores

Someone who copied the map of a store and learns of every change from then on can keep the copy up
to date without looking at the store again. Each edit that does something to the map makes one
change, and the change says just that (`reflect_change?`), with the value that the copy had before
(`old_eq_of_change?`); runs follow by induction (`reflect_changes`, `old_eq_of_mem_changes`). An
observer is told each change once, however many others there are (`heard_eq_changes`). Main
statement: `Watched.Reachable.mirrored`.
-/

namespace PropertyConfig

/-- What a change does to a mirror. A mirror holds each value under what all spellings of its key
have in common. -/
def Policy.reflect (p : Policy) (m : Finmap fun _ : Text => Text) (c : Change) :
    Finmap fun _ : Text => Text :=
  match c.new with
  | some value => m.insert (p.fold c.key) value
  | none => m.erase (p.fold c.key)

namespace Store

variable {s : Store} {e : Edit} {c : Change}

/-! ## Changes that edits make -/

/-- The key of an entry that is found is the key that was looked for, up to its spelling. -/
theorem fold_of_entry? (h : s.Distinct) {key : Text} {found : Entry}
    (hfound : s.entry? key = some found) : s.policy.fold found.1 = s.policy.fold key := by
  rw [entry?_eq_find? h] at hfound
  simpa using List.find?_some hfound

theorem entry?_eq_none_iff (h : s.Distinct) {key : Text} :
    s.entry? key = none ↔ s.policy.fold key ∉ s.toFinmap := by
  rw [← Finmap.lookup_eq_none, ← get?_eq_lookup h, get?, Option.map_eq_none_iff]

/-- A change says what its edit does, and without a change the map stays as it is. -/
theorem reflect_change? (h : s.Distinct) (e : Edit) :
    (s.change? e).toList.foldl s.policy.reflect s.toFinmap = (s.apply e).toFinmap := by
  rw [toFinmap_apply h, Policy.onFinmap, change?]
  cases s.policy.action e with
  | nothing => rfl
  | assign key value => rfl
  | erase key =>
    cases hentry : s.entry? key with
    | none =>
      have hnew := (entry?_eq_none_iff h).1 hentry
      simp only [hentry, Option.map_none, Option.toList_none, List.foldl_nil]
      refine Finmap.ext_lookup fun f => ?_
      by_cases hf : f = s.policy.fold key
      · rw [hf, Finmap.lookup_erase, Finmap.lookup_eq_none.2 hnew]
      · rw [Finmap.lookup_erase_ne hf]
    | some found =>
      simp only [hentry, Option.map_some, Option.toList_some, List.foldl_cons, List.foldl_nil,
        Policy.reflect, fold_of_entry? h hentry]

/-- The value before is the one in the mirror. -/
theorem old_eq_of_change? (h : s.Distinct) (hc : s.change? e = some c) :
    c.old = s.toFinmap.lookup (s.policy.fold c.key) := by
  rw [change?] at hc
  cases haction : s.policy.action e with
  | nothing => simp [haction] at hc
  | assign key value =>
    simp only [haction, Option.some.injEq] at hc
    rw [← hc]
    exact get?_eq_lookup h key
  | erase key =>
    simp only [haction, Option.map_eq_some_iff] at hc
    obtain ⟨found, hentry, rfl⟩ := hc
    have hget : s.get? key = some found.2 := by rw [get?, hentry, Option.map_some]
    have hfold := fold_of_entry? h hentry
    rw [hfold, ← get?_eq_lookup h, hget]

/-! ## Changes that runs make -/

theorem reflect_changes (h : s.Distinct) (edits : List Edit) :
    (s.changes edits).foldl s.policy.reflect s.toFinmap = (s.run edits).toFinmap := by
  induction edits generalizing s with
  | nil => rfl
  | cons e edits ih =>
    have ih := ih (distinct_apply h e)
    rw [policy_apply] at ih
    rw [changes, List.foldl_append, reflect_change? h, ih]
    rfl

theorem old_eq_of_mem_changes (h : s.Distinct) {edits : List Edit} {before after : List Change}
    (hc : s.changes edits = before ++ c :: after) :
    c.old = (before.foldl s.policy.reflect s.toFinmap).lookup (s.policy.fold c.key) := by
  induction edits generalizing s before with
  | nil => simp [changes] at hc
  | cons e edits ih =>
    have ih {before : List Change} := @ih _ (distinct_apply h e) before
    rw [policy_apply, ← reflect_change? h e] at ih
    rw [changes] at hc
    cases hchange : s.change? e with
    | none =>
      rw [hchange] at hc ih
      exact ih hc
    | some first =>
      rw [hchange] at hc ih
      cases before with
      | nil =>
        obtain ⟨rfl, -⟩ := List.cons.inj hc
        exact old_eq_of_change? h hchange
      | cons d before =>
        obtain ⟨rfl, hrest⟩ := List.cons.inj hc
        exact ih hrest

end Store

/-! ## Observers -/

namespace Watched

variable {α : Type} {allowed : Policy → Prop}

/-- What can be done to a store can be done to a watched one. -/
def perform (w : Watched α) (op : Operation) : Watched α := w.run (op.edits w.store)

/-- The edits that some operations come down to, one after the other. -/
def edits (w : Watched α) : List Operation → List Edit
  | [] => []
  | op :: ops => op.edits w.store ++ (w.perform op).edits ops

theorem store_foldl_perform (w : Watched α) (ops : List Operation) :
    (ops.foldl perform w).store = w.store.run (w.edits ops) := by
  induction ops generalizing w with
  | nil => rfl
  | cons op ops ih =>
    rw [List.foldl_cons, ih, edits, Store.run_append]
    rfl

/-- Watched stores that come of an unwatched one while only some policies are in use. -/
inductive Reachable (allowed : Policy → Prop) : Watched α → Prop
  | unwatched {s} : s.Reachable allowed → Reachable allowed { store := s }
  | perform {w} (op : Operation) : Reachable allowed w → Reachable allowed (w.perform op)
  | observe {w} (observer : α) : Reachable allowed w → Reachable allowed (w.observe observer).1
  | unobserve {w} (id : Nat) : Reachable allowed w → Reachable allowed (w.unobserve id).1
  | resettle {w p} : allowed p → Reachable allowed w →
      Reachable allowed { w with store := { w.store with policy := p } }

variable {w : Watched α}

theorem Reachable.store (h : w.Reachable allowed) : w.store.Reachable allowed := by
  induction h with
  | unwatched h => exact h
  | perform op _ ih => exact .perform op ih
  | observe observer _ ih => exact ih
  | unobserve id _ ih => exact ih
  | resettle hp _ ih => exact .resettle hp ih

/-- Numbers that are given out stay below the next one, so that no observer gets the number of
another. -/
theorem Reachable.lt_next (h : w.Reachable allowed) : ∀ o ∈ w.observers, o.1 < w.next := by
  induction h with
  | unwatched _ => simp
  | perform op _ ih => exact ih
  | @observe w observer _ ih =>
    intro o ho
    show o.1 < w.next + 1
    rcases List.mem_append.1 ho with ho | ho
    · have := ih o ho
      omega
    · obtain rfl := List.mem_singleton.1 ho
      exact Nat.lt_succ_self _
  | unobserve id _ ih => exact fun o ho => ih o (List.mem_filter.1 ho).1
  | resettle _ _ ih => exact ih

/-- The watched store with its observers known by their numbers. -/
def numbered (w : Watched α) : Watched Nat :=
  { w with observers := w.observers.map fun o => (o.1, o.1) }

/-- What the observer with a number is told of some edits. -/
def heard (w : Watched α) (id : Nat) (edits : List Edit) : List Change :=
  ((w.numbered.reports edits).filter fun r => r.1 = id).map Prod.snd

/-- A new observer is told each change once. -/
theorem heard_eq_changes (h : w.Reachable allowed) (observer : α) (edits : List Edit) :
    (w.observe observer).1.heard (w.observe observer).2 edits = w.store.changes edits := by
  have hothers : w.observers.filter (fun o => o.1 = w.next) = [] := by
    rw [List.filter_eq_nil_iff]
    intro o ho
    have := h.lt_next o ho
    simp only [decide_eq_true_eq]
    omega
  have hone (c : Change) :
      (((w.observe observer).1.numbered.observers.map fun o => (o.2, c)).filter
        fun r => r.1 = w.next) = [(w.next, c)] := by
    simp [numbered, observe, List.filter_map, Function.comp_def, hothers]
  show (((w.store.changes edits).flatMap _).filter _).map Prod.snd = _
  induction w.store.changes edits with
  | nil => rfl
  | cons c changes ih =>
    rw [List.flatMap_cons, List.filter_append, List.map_append, ih]
    exact congrArg (· ++ changes) (congrArg (List.map Prod.snd) (hone c))

/-- **A mirror stays up to date.** Let an observer come to a store that operations lead to while
letter case counts, or does not count, all the time, and let it copy the map of the store. Whatever
operations follow, doing to the copy what the observer is told makes it the map of the store again,
and each time it is told of a value from before, that is the value in the copy. -/
theorem Reachable.mirrored {ignoreCase : Bool} (h : w.Reachable (·.ignoreCase = ignoreCase))
    (observer : α) (ops : List Operation) :
    let p := w.store.policy
    let (watched, id) := w.observe observer
    let store := (ops.foldl Watched.perform watched).store
    let heard := watched.heard id (watched.edits ops)
    (heard.foldl p.reflect w.store.toFinmap = store.toFinmap ∧ store.Refines store.toFinmap) ∧
      ∀ before c after, heard = before ++ c :: after →
        c.old = (before.foldl p.reflect w.store.toFinmap).lookup (p.fold c.key) := by
  have hstore : (w.observe observer).1.store.Distinct := h.store.distinct
  have hrun : (ops.foldl Watched.perform (w.observe observer).1).store =
      w.store.run ((w.observe observer).1.edits ops) := store_foldl_perform _ ops
  intro p
  dsimp only
  rw [heard_eq_changes h, hrun]
  have hafter := Store.distinct_run hstore ((w.observe observer).1.edits ops)
  refine ⟨⟨Store.reflect_changes hstore _, Store.refines_toFinmap hafter⟩, ?_⟩
  intro before c after hheard
  exact Store.old_eq_of_mem_changes hstore hheard

/-- A store in which letter case does not count, with `A=1` and an observer. -/
def watchedCaseless : Watched Char :=
  let s : Store := { policy := { ignoreCase := true } }
  (Watched.observe { store := s.perform (.set ['A'] ['1']) } 'x').1

/-- Removal is told with the spelling in the store, assignment with the one that was used. -/
theorem mirrored_caseless :
    let (watched, id) := watchedCaseless.observe 'y'
    let ops : List Operation :=
      [.set ['a'] ['2'], .merge { entries := [(['b'], []), ("^a".toList, [])] } false]
    let heard := watched.heard id (watched.edits ops)
    heard = [⟨['a'], some ['1'], some ['2']⟩, ⟨['b'], none, some []⟩, ⟨['A'], some ['2'], none⟩] ∧
      heard.foldl watchedCaseless.store.policy.reflect watchedCaseless.store.toFinmap =
        (ops.foldl Watched.perform watched).store.toFinmap := by
  have hreachable : watchedCaseless.Reachable (·.ignoreCase = true) :=
    .observe 'x' (.unwatched (.perform _ (.empty rfl)))
  obtain ⟨⟨hmirror, -⟩, -⟩ := hreachable.mirrored 'y'
    [.set ['a'] ['2'], .merge { entries := [(['b'], []), ("^a".toList, [])] } false]
  exact ⟨by decide, hmirror⟩

end Watched

end PropertyConfig
