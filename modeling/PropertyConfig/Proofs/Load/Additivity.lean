import PropertyConfig.Proofs.Load.Stores
import PropertyConfig.Url.Parse

/-!
# Including adds

Whatever an included resource does to its own store, the store that includes it only gains: the
entries of the included one are laid over its own, except for the two reserved keys
(`Store.Loaded.merge_removed`). So keys that the included store does not define keep their values,
and all keep their places (`Loader.include_additive`).
-/

namespace PropertyConfig

/-- The entries that the store of an included resource passes on: those of other than reserved
keys. -/
def Store.passedOn (s : Store) : List Entry :=
  s.entries.filter fun e => e.1 != configUrlKey && e.1 != nameKey

theorem Store.keys_passedOn (s : Store) :
    s.passedOn.map Prod.fst = s.keys.filter fun key => key != configUrlKey && key != nameKey := by
  rw [passedOn, keys, List.filter_map]
  rfl

namespace Store

namespace Loaded

variable {p : Policy} {s child : Store}

theorem settable_passedOn (h : s.Loaded p) : ∀ e ∈ s.passedOn, p.Settable e := by
  intro e he
  obtain ⟨hmem, hother⟩ := List.mem_filter.1 he
  rcases h.loadable e hmem with hkey | hkey | hsettable
  · simp [hkey] at hother
  · simp [hkey] at hother
  · exact hsettable

theorem distinct_entries (h : s.Loaded p) : p.Distinct s.entries := by
  have hdistinct := h.distinct
  rwa [Distinct, h.policy_eq] at hdistinct

theorem distinct_passedOn (h : s.Loaded p) : p.Distinct s.passedOn :=
  h.distinct_entries.sublist (List.filter_sublist.map _)

theorem get?_eq (h : s.Loaded p) (key : Text) : s.get? key = p.value? key s.entries := by
  rw [get?_eq_value? h.distinct, h.policy_eq]

/-- Other than reserved keys are passed on with their values. -/
theorem value?_passedOn (h : s.Loaded p) {key : Text} (hname : p.fold key ≠ p.fold nameKey)
    (hurl : p.fold key ≠ p.fold configUrlKey) : p.value? key s.passedOn = s.get? key := by
  rw [h.get?_eq, passedOn]
  refine Policy.value?_filter fun e _ hsame => ?_
  have hne₁ : e.1 ≠ configUrlKey := fun heq => hurl (by rw [← hsame, heq])
  have hne₂ : e.1 ≠ nameKey := fun heq => hname (by rw [← hsame, heq])
  simp [hne₁, hne₂]

/-- No spelling of a reserved key is passed on. -/
theorem value?_passedOn_reserved (h : s.Loaded p) {key rest : Text}
    (hkey : p.fold key = p.fold ('%' :: rest)) : p.value? key s.passedOn = none := by
  rw [Policy.value?_eq_none_iff]
  intro e he
  rw [hkey]
  exact (h.settable_passedOn e he).fold_ne

/-- What is merged of an included store is laid over the store that includes it. -/
theorem merge_removed (h : s.Loaded p) (hchild : child.Loaded p) :
    (s.merge (child.remove configUrlKey) false).store =
      { s with entries := p.overlay s.entries child.passedOn } := by
  have hremoved := hchild.remove configUrlKey
  have hkeep : ∀ e ∈ child.entries, decide (p.fold e.1 ≠ p.fold configUrlKey) =
      (e.1 != configUrlKey) := by
    intro e he
    by_cases hkey : e.1 = configUrlKey
    · simp [hkey]
    · have hfold : p.fold e.1 ≠ p.fold configUrlKey := fun hfold =>
        hkey ((hchild.loadable e he).eq_of_fold (.inl rfl) hfold)
      simp [hkey, hfold]
  have hentries : (child.remove configUrlKey).entries.filter (·.1 != nameKey) =
      child.passedOn := by
    rw [hchild.entries_remove, List.filter_congr hkeep, List.filter_filter, passedOn]
    exact List.filter_congr fun e _ => Bool.and_comm _ _
  have hsettable : ∀ e ∈ (child.remove configUrlKey).entries, e.1 ≠ nameKey →
      s.policy.Settable e := by
    intro e he hname
    rw [h.policy_eq]
    refine hchild.settable_passedOn e ?_
    rw [← hentries]
    exact List.mem_filter.2 ⟨he, by simpa using hname⟩
  rw [merge_eq_overlay h.distinct hsettable, hentries, h.policy_eq]

/-- The keys that are there keep their order, those that the included store adds follow in its
own. -/
theorem keys_merge_removed (h : s.Loaded p) (hchild : child.Loaded p) :
    (s.merge (child.remove configUrlKey) false).store.keys =
      s.keys ++ child.keys.filter fun key =>
        key != nameKey && key != configUrlKey && !s.contains key := by
  have hnew (key : Text) :
      decide (p.fold key ∉ s.entries.map fun e => p.fold e.1) = !s.contains key := by
    have hiff := contains_iff h.distinct key
    rw [h.policy_eq] at hiff
    rw [Bool.eq_iff_iff, decide_eq_true_iff, Bool.not_eq_true', ← Bool.not_eq_true, hiff]
  rw [h.merge_removed hchild, keys, Policy.keys_overlay hchild.distinct_passedOn, keys_passedOn,
    List.filter_filter]
  refine congrArg (s.keys ++ ·) (List.filter_congr fun key _ => ?_)
  rw [hnew, Bool.and_comm, Bool.and_comm (key != configUrlKey)]

theorem get?_merge_removed (h : s.Loaded p) (hchild : child.Loaded p) (key : Text) :
    (s.merge (child.remove configUrlKey) false).store.get? key =
      (p.value? key child.passedOn).or (s.get? key) := by
  have hmerged := h.merge (hchild.remove configUrlKey) false
  rw [hmerged.get?_eq, h.merge_removed hchild, Policy.value?_overlay hchild.distinct_passedOn,
    h.get?_eq]

end Loaded

end Store

namespace Loader

/-- **Including adds.** Let an include, in any resource that is visited during a load, lead to a
resource, and let `final` be the store of this when its text has come to an end. Keys that `final`
does not define keep their values, and the reserved keys keep theirs in any case. All other keys
that `final` defines take their values from it. The keys that are there keep their order, the new
ones follow as they stand in `final`. -/
theorem include_additive (l : Loader) (source : Option Url) (t₀ : Text) {c : Context} {s : Store}
    {t : Text} (hvisits : l.Visits source t₀ c s t) (i : Inclusion l.surroundings c s t) {url : Url}
    {child : Text} (hok : i.outcome = .ok (url, child)) :
    let before := i.machine.store
    let final := (interpretIn l.surroundings (c.below url before) (before.opened url) child).store
    let after := i.result.1.store
    (∀ key, final.get? key = none → after.get? key = before.get? key) ∧
    (∀ key value, final.get? key = some value → ¬ l.policy.sameKey key nameKey →
      ¬ l.policy.sameKey key configUrlKey → after.get? key = some value) ∧
    after.get? nameKey = before.get? nameKey ∧
    after.get? configUrlKey = before.get? configUrlKey ∧
    after.keys = before.keys ++ final.keys.filter fun key =>
      key != nameKey && key != configUrlKey && !before.contains key := by
  intro before final after
  have hbefore : before.Loaded l.policy :=
    i.toPlace.loaded (PropertyConfig.Visits.loaded hvisits (l.loaded_rootStore source))
  have hfinal : final.Loaded l.policy := loaded_interpretIn (hbefore.opened url)
  have hafter : after = (before.merge (final.remove configUrlKey) false).store := by
    show i.result.1.store = _
    rw [i.result_of_ok hok]
    rfl
  have hget (key : Text) :
      after.get? key = (l.policy.value? key final.passedOn).or (before.get? key) := by
    rw [hafter, hbefore.get?_merge_removed hfinal]
  have hreserved (key rest : Text) (hkey : l.policy.fold key = l.policy.fold ('%' :: rest)) :
      after.get? key = before.get? key := by
    rw [hget, hfinal.value?_passedOn_reserved hkey, Option.none_or]
  refine ⟨fun key hnone => ?_, fun key value hsome hname hurl => ?_, hreserved _ _ rfl,
    hreserved _ _ rfl, ?_⟩
  · by_cases hname : l.policy.fold key = l.policy.fold nameKey
    · exact hreserved key _ hname
    · by_cases hurl : l.policy.fold key = l.policy.fold configUrlKey
      · exact hreserved key _ hurl
      · rw [hget, hfinal.value?_passedOn hname hurl, hnone, Option.none_or]
  · rw [Policy.sameKey_iff] at hname hurl
    rw [hget, hfinal.value?_passedOn hname hurl, hsome, Option.some_or]
  · rw [hafter, hbefore.keys_merge_removed hfinal]

/-- The lines of a resource that names itself and removes `b`. -/
def addedText : Text := "%name=r\nA=2\n|b=\nc=3".toList

/-- The case of letters does not count, and every resource has the text `addedText`. -/
def caselessLoader : Loader where
  surroundings :=
    { fetch := fun _ => .ok addedText
      readUrl := UrlReader.ascii
      ambient := none
      workingDirectory := [] }
  policy := { ignoreCase := true }
  includeName := true

/-- The include at the end of a text that sets `a` and `b`. -/
def addingInclusion : Inclusion caselessLoader.surroundings ⟨none, 1, []⟩
    (caselessLoader.rootStore none) "a=1\nb=0\n%include=file:/r".toList where
  before := ["a=1".toList, "b=0".toList]
  raw := "%include=file:/r".toList
  after := []
  lines_eq := rfl
  written := "file:/r".toList
  isOptional := false
  read_eq := rfl
  executed := by decide

/-- The removal of `b` and the name stay with the resource, and `a` keeps its spelling. -/
theorem include_additive_caseless :
    addingInclusion.result.1.store.get? ['b'] = some ['0'] ∧
      addingInclusion.result.1.store.get? ['a'] = some ['2'] ∧
      addingInclusion.result.1.store.get? nameKey = none ∧
      addingInclusion.result.1.store.keys = [['a'], ['b'], ['c']] := by
  have htarget : addingInclusion.target = "file:/r".toList := rfl
  have hok : addingInclusion.outcome =
      .ok (⟨Url.fileScheme, some {}, .rooted [['r']], none, none⟩, addedText) := by
    rw [Inclusion.outcome, htarget]
    exact follow_eq_ok_iff.2 ⟨by decide, rfl, rfl⟩
  obtain ⟨hkeep, htake, hname, -, hkeys⟩ :=
    include_additive caselessLoader none _ .start addingInclusion hok
  refine ⟨?_, htake ['a'] ['2'] (by decide) (by decide) (by decide), ?_, ?_⟩
  · rw [hkeep ['b'] (by decide)]
    decide
  · rw [hname]
    decide
  · rw [hkeys]
    decide

end Loader

end PropertyConfig
