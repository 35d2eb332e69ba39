import PropertyConfig.Proofs.Load.Stores
import PropertyConfig.Proofs.Store.Copying
import PropertyConfig.Proofs.Store.Untouched
import PropertyConfig.Url.Parse

/-!
# Loading into a store

Whatever the policy of a store that a resource is loaded into, the two reserved keys of the resource
are no other keys there, and none of its other keys are these (`Policy.Loadable.eq_of_sameKey`). So
the URL of the store is left alone by all loads, and its name by those that do not include the name
of the resource. Such loads have taken the name out before they merge: they do not even report it
(`Loader.loadInto_names_iff`).
-/

namespace PropertyConfig

variable {p : Policy} {s : Store}

/-- An entry that a load has made is one of a reserved key only if the key is spelled so, whatever
the policy that tells. -/
theorem Policy.Loadable.eq_of_sameKey {q : Policy} {e : Entry} (h : p.Loadable e) {key : Text}
    (hkey : key = configUrlKey ∨ key = nameKey) (hsame : q.sameKey e.1 key) : e.1 = key := by
  -- all values can be set where blank ones are kept, and letter case counts there as it does in `q`
  have hloadable : ({ q with allowBlank := true } : Policy).Loadable e :=
    h.imp_right (.imp_right fun hsettable => ⟨hsettable.1, .inl rfl⟩)
  exact hloadable.eq_of_fold hkey (Policy.sameKey_iff.1 hsame)

namespace Store

namespace Loaded

theorem wellKeyed (h : s.Loaded p) : s.WellKeyed := by
  intro key hkey
  obtain ⟨e, he, rfl⟩ := List.mem_map.1 hkey
  rcases h.loadable e he with hurl | hname | hsettable
  · exact ⟨_, _, hurl, by decide⟩
  · exact ⟨_, _, hname, by decide⟩
  · obtain ⟨⟨c, rest, hcons, -, hmarker⟩, -⟩ := hsettable
    exact ⟨c, rest, hcons, hmarker⟩

theorem plainlyNamed (h : s.Loaded p) : s.PlainlyNamed := by
  intro key hkey hletters
  obtain ⟨e, he, rfl⟩ := List.mem_map.1 hkey
  exact (h.loadable e he).eq_of_sameKey (q := { ignoreCase := true }) (.inr rfl) hletters

theorem ownName?_eq_name? (h : s.Loaded p) : s.ownName? = s.name? :=
  s.ownName?_eq.trans h.plainlyNamed.name?_eq.symm

/-- A removed key is there under no spelling. -/
theorem get?_remove (h : s.Loaded p) (key : Text) : (s.remove key).get? key = none := by
  rw [get?_eq_value? (h.remove key).distinct, (h.remove key).policy_eq, h.entries_remove,
    Policy.value?_eq_none_iff]
  intro e he
  simpa using (List.mem_filter.1 he).2

theorem mem_keys_remove (h : s.Loaded p) {key k : Text} (hk : k ∈ (s.remove key).keys) :
    k ∈ s.keys ∧ k ≠ key := by
  rw [keys, h.entries_remove] at hk
  obtain ⟨e, he, rfl⟩ := List.mem_map.1 hk
  obtain ⟨hmem, hfold⟩ := List.mem_filter.1 he
  refine ⟨List.mem_map_of_mem hmem, fun heq => ?_⟩
  simp [heq] at hfold

end Loaded

/-- Without its URL, a store has the name that it has. -/
theorem name?_remove_configUrlKey (s : Store) : (s.remove configUrlKey).name? = s.name? := by
  have hother : s.policy.sameKey configUrlKey nameKey = false :=
    Policy.sameKey_eq_false_iff.2 Policy.fold_nameKey_ne.symm
  exact get?_remove_of_untouched hother

end Store

namespace Loader

variable {l : Loader} {target : Store} {url t : Text} {source : Url}

/-- The store that `target` has become when a load into it is over. If the load fails, it has become
nothing else. -/
def storeInto (l : Loader) (target : Store) (url : Text) : Store :=
  match (l.loadInto target url).result with
  | .ok merged => merged.store
  | .error _ => target

/-- The store of a root resource with that text, when the text has come to an end. -/
def final (l : Loader) (source : Url) (t : Text) : Store := (l.interpretRoot (some source) t).store

/-- What a load produces of it. -/
def produced (l : Loader) (source : Url) (t : Text) : Store :=
  if l.includeName then l.final source t else (l.final source t).remove nameKey

/-- What a load merges of that. -/
def merged (l : Loader) (source : Url) (t : Text) : Store :=
  (l.produced source t).remove configUrlKey

theorem loaded_final (l : Loader) (source : Url) (t : Text) :
    (l.final source t).Loaded l.policy :=
  l.loaded_interpretRoot (some source) t

theorem loaded_produced (l : Loader) (source : Url) (t : Text) :
    (l.produced source t).Loaded l.policy := by
  unfold produced
  split
  · exact l.loaded_final source t
  · exact (l.loaded_final source t).remove nameKey

theorem loaded_merged (l : Loader) (source : Url) (t : Text) :
    (l.merged source t).Loaded l.policy :=
  (l.loaded_produced source t).remove configUrlKey

theorem mem_keys_produced {k : Text} (hk : k ∈ (l.produced source t).keys) :
    k ∈ (l.final source t).keys ∧ (l.includeName = true ∨ k ≠ nameKey) := by
  unfold produced at hk
  split at hk
  · rename_i hname
    exact ⟨hk, .inl hname⟩
  · obtain ⟨hk, hne⟩ := (l.loaded_final source t).mem_keys_remove hk
    exact ⟨hk, .inr hne⟩

/-- The URL is not merged, and the name only if it is to be included. -/
theorem mem_keys_merged {k : Text} (hk : k ∈ (l.merged source t).keys) :
    k ∈ (l.final source t).keys ∧ k ≠ configUrlKey ∧ (l.includeName = true ∨ k ≠ nameKey) := by
  obtain ⟨hk, hurl⟩ := (l.loaded_produced source t).mem_keys_remove hk
  obtain ⟨hk, hname⟩ := mem_keys_produced hk
  exact ⟨hk, hurl, hname⟩

theorem ownName?_merged (l : Loader) (source : Url) (t : Text) :
    (l.merged source t).ownName? = if l.includeName then (l.final source t).name? else none := by
  rw [(l.loaded_merged source t).ownName?_eq_name?, merged, Store.name?_remove_configUrlKey,
    produced]
  split
  · rfl
  · exact (l.loaded_final source t).get?_remove nameKey

theorem result_loadInto (hurl : l.surroundings.resolve none url = .ok source)
    (hfetch : l.surroundings.fetch source = .ok t) :
    (l.loadInto target url).result =
      .ok (target.merge (l.merged source t) l.includeName) := by
  rw [loadInto, loadUrl, hurl]
  simp only [hfetch]
  rfl

/-- A key that is none of those that are merged keeps its value. -/
theorem get?_merge_merged {key : Text}
    (h : ∀ k ∈ (l.merged source t).keys, target.policy.sameKey k key = false) :
    (target.merge (l.merged source t) l.includeName).store.get? key = target.get? key :=
  Store.get?_merge_of_untouched (l.loaded_merged source t).wellKeyed fun k hk _ => h k hk

/-- So does a reserved key that is not merged itself: no other one is the same key. -/
theorem get?_merge_reserved {key : Text} (hkey : key = configUrlKey ∨ key = nameKey)
    (h : key ∉ (l.merged source t).keys) :
    (target.merge (l.merged source t) l.includeName).store.get? key = target.get? key := by
  refine get?_merge_merged fun k hk => ?_
  rw [Bool.eq_false_iff]
  intro hsame
  obtain ⟨e, he, rfl⟩ := List.mem_map.1 hk
  have hloadable := (l.loaded_merged source t).loadable e he
  exact h (hloadable.eq_of_sameKey hkey hsame ▸ hk)

/-- **Loading into a store.** Let a URL lead to a resource, and let `final` be the store of this
when its text has come to an end. Then a load into `target`, whatever this is, succeeds. The name
that it reports is that of `final` exactly if names are included, or `final` has none; where they
are not, it reports none, and `target` keeps its own. `target` keeps its URL in any case, and all
keys keep their values that `final` does not define, its own URL apart. If the URL leads to no
resource, the load fails with what was in the way, and `target` stays as it is. -/
theorem loadInto_names_iff (l : Loader) (target : Store) (url : Text) :
    (∀ source t, l.surroundings.resolve none url = .ok source →
      l.surroundings.fetch source = .ok t →
      let final := l.final source t
      let after := l.storeInto target url
      ∃ name, (l.loadInto target url).result = .ok ⟨after, name⟩ ∧
        (name = final.name? ↔ l.includeName = true ∨ final.name? = none) ∧
        (l.includeName = false → name = none ∧ after.name? = target.name?) ∧
        after.get? configUrlKey = target.get? configUrlKey ∧
        ∀ key, (∀ k ∈ final.keys, k ≠ configUrlKey → target.policy.sameKey k key = false) →
          after.get? key = target.get? key) ∧
    (∀ e, l.surroundings.resolve none url = .error e →
      (l.loadInto target url).result = .error e ∧ l.storeInto target url = target) ∧
    ∀ source e, l.surroundings.resolve none url = .ok source →
      l.surroundings.fetch source = .error e →
      (l.loadInto target url).result = .error e ∧ l.storeInto target url = target := by
  refine ⟨fun source t hurl hfetch => ?_, fun e hurl => ?_, fun source e hurl hfetch => ?_⟩
  · intro final after
    have hresult : (l.loadInto target url).result =
        .ok (target.merge (l.merged source t) l.includeName) :=
      result_loadInto hurl hfetch
    have hafter : after = (target.merge (l.merged source t) l.includeName).store := by
      show l.storeInto target url = _
      rw [storeInto, hresult]
    rw [hafter]
    refine ⟨_, hresult, ?_, fun hname => ⟨?_, ?_⟩, ?_, fun key hkey => ?_⟩
    · rw [ownName?_merged]
      cases l.includeName with
      | true => simp [final]
      | false => simp [final, eq_comm]
    · rw [ownName?_merged, hname, if_neg Bool.false_ne_true]
    · refine get?_merge_reserved (.inr rfl) fun hmem => ?_
      obtain ⟨-, -, hincluded⟩ := mem_keys_merged hmem
      simp [hname] at hincluded
    · exact get?_merge_reserved (.inl rfl) fun hmem => (mem_keys_merged hmem).2.1 rfl
    · refine get?_merge_merged fun k hk => ?_
      obtain ⟨hmem, hurl, -⟩ := mem_keys_merged hk
      exact hkey k hmem hurl
  · have hresult : (l.loadInto target url).result = .error e := by
      rw [loadInto, loadUrl, hurl]
      rfl
    exact ⟨hresult, by rw [storeInto, hresult]⟩
  · have hresult : (l.loadInto target url).result = .error e := by
      rw [loadInto, loadUrl, hurl]
      simp only [hfetch]
      rfl
    exact ⟨hresult, by rw [storeInto, hresult]⟩

/-- The lines of a resource that is named `r`, with `A=2`. -/
def namingText : Text := "%name=r\nA=2".toList

/-- Every resource has the text `namingText`. -/
def namingLoader (includeName : Bool) : Loader where
  surroundings :=
    { fetch := fun _ => .ok namingText
      readUrl := UrlReader.ascii
      ambient := none
      workingDirectory := [] }
  policy := {}
  includeName

/-- A store named `t` in which letter case does not count, with `a=1` and `b=0`. -/
def namedTarget : Store where
  policy := { ignoreCase := true }
  entries := [(nameKey, ['t']), (['a'], ['1']), (['b'], ['0'])]

/-- The URL `file:/r`, as a text. -/
def namingUrl : Text := "file:/r".toList

/-- The URL `file:/r`. -/
def namingSource : Url := ⟨Url.fileScheme, some {}, .rooted [['r']], none, none⟩

/-- Only the name tells the two loads apart. -/
theorem loadInto_names_iff_namedTarget :
    (∃ after, ((namingLoader true).loadInto namedTarget namingUrl).result =
        .ok ⟨after, some ['r']⟩ ∧
      after.get? ['b'] = some ['0'] ∧ after.get? configUrlKey = none) ∧
    ∃ after, ((namingLoader false).loadInto namedTarget namingUrl).result = .ok ⟨after, none⟩ ∧
      after.name? = some ['t'] ∧ after.get? ['b'] = some ['0'] := by
  have hresolve (b : Bool) :
      (namingLoader b).surroundings.resolve none namingUrl = .ok namingSource := rfl
  constructor
  · obtain ⟨name, hresult, hreported, -, hurl, hkeep⟩ :=
      (loadInto_names_iff (namingLoader true) namedTarget namingUrl).1 _ namingText (hresolve _) rfl
    obtain rfl := hreported.2 (.inl rfl)
    exact ⟨_, hresult, (hkeep ['b'] (by decide)).trans (by decide), hurl.trans (by decide)⟩
  · obtain ⟨name, hresult, -, hnone, -, hkeep⟩ :=
      (loadInto_names_iff (namingLoader false) namedTarget namingUrl).1 _ namingText
        (hresolve _) rfl
    obtain ⟨rfl, hname⟩ := hnone rfl
    exact ⟨_, hresult, hname.trans (by decide), (hkeep ['b'] (by decide)).trans (by decide)⟩

/-- Where names are not included, a load reports none, although the resource has one. -/
theorem name_unreported :
    ∃ source t, (namingLoader false).surroundings.resolve none namingUrl = .ok source ∧
      (namingLoader false).surroundings.fetch source = .ok t ∧
      ((namingLoader false).final source t).name? = some ['r'] ∧
      ((namingLoader false).loadInto {} namingUrl).result = .ok ⟨⟨{}, [(['A'], ['2'])]⟩, none⟩ := by
  refine ⟨namingSource, namingText, rfl, rfl, by decide, ?_⟩
  have hresult : ((namingLoader false).loadInto {} namingUrl).result =
      .ok (({} : Store).merge ((namingLoader false).merged namingSource namingText) false) :=
    result_loadInto rfl rfl
  rw [hresult]
  exact congrArg Except.ok (by decide)

end Loader

end PropertyConfig
