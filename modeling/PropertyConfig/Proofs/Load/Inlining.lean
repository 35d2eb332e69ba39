import PropertyConfig.Proofs.Line
import PropertyConfig.Proofs.Load.Run
import PropertyConfig.Proofs.Store.Merging
import PropertyConfig.Url.Parse

/-!
# Including is inlining

An include whose resource removes nothing does what the lines of the resource would do in its place
(`interpret_include_eq_inlined`). While the resource is interpreted, its store and the store that
its lines would act on in place of the include agree: the entries of the first one, laid over the
store at the include, are the second one (`Agree`).
-/

namespace PropertyConfig

namespace Line

/-- A line that removes nothing, includes nothing, sets no key with a leading `%`, and does not ask
for the URL of its resource. -/
def isInlinable (p : Policy) : Line → Bool
  | .inclusion _ _ | .reserved _ _ => false
  | .condition (.ok asked) => !Text.sameLetters asked.key configUrlKey
  | .property key value =>
    match p.action (.set key value) with
    | .erase _ => false
    | _ => true
  | _ => true

end Line

namespace Store

/-- Reading the lower of two stores where the upper one defines nothing is reading them as one. -/
theorem lookupIn_overlay {p : Policy} {added entries : List Entry} {url : Text}
    (hchild : p.Distinct ((configUrlKey, url) :: added)) (hentries : p.Distinct entries)
    (stores : List Store) {key : Text} (hkey : p.fold key ≠ p.fold configUrlKey) :
    lookupIn (⟨p, (configUrlKey, url) :: added⟩ :: ⟨p, entries⟩ :: stores) key =
      lookupIn (⟨p, p.overlay entries added⟩ :: stores) key := by
  obtain ⟨-, hadded⟩ := Policy.distinct_cons.1 hchild
  have hmerged : Distinct ⟨p, p.overlay entries added⟩ := Policy.distinct_overlay hentries added
  have hget : get? ⟨p, (configUrlKey, url) :: added⟩ key = p.value? key added := by
    rw [get?_eq_value? (s := ⟨p, (configUrlKey, url) :: added⟩) hchild, Policy.value?,
      if_neg (Ne.symm hkey)]
  simp only [lookupIn, List.findSome?_cons, hget, get?_eq_value? hmerged,
    get?_eq_value? (s := ⟨p, entries⟩) hentries, Policy.value?_overlay hadded]
  cases p.value? key added <;> rfl

end Store

/-! ## Two runs -/

/-- The store of an included resource agrees with the store that its lines would act on in place of
the include, where the including store is `s`. -/
def Agree (s : Store) (url : Text) (child merged : Store) : Prop :=
  ∃ added : List Entry, child = ⟨s.policy, (configUrlKey, url) :: added⟩ ∧
    s.policy.Distinct ((configUrlKey, url) :: added) ∧ (∀ e ∈ added, s.policy.Settable e) ∧
    merged = ⟨s.policy, s.policy.overlay s.entries added⟩

theorem agree_set {s : Store} (hs : s.Distinct) {url : Text} {child merged : Store}
    (h : Agree s url child merged) {key value : Text} (he : s.policy.Settable (key, value)) :
    Agree s url (child.set key value) (merged.set key value) := by
  obtain ⟨added, rfl, hdistinct, hadded, rfl⟩ := h
  have hchild : Store.Distinct ⟨s.policy, (configUrlKey, url) :: added⟩ := hdistinct
  have hmerged : Store.Distinct ⟨s.policy, s.policy.overlay s.entries added⟩ :=
    Policy.distinct_overlay hs added
  have hfirst : s.policy.upsert key value ((configUrlKey, url) :: added) =
      (configUrlKey, url) :: s.policy.upsert key value added := by
    rw [Policy.upsert, if_neg (Ne.symm he.fold_ne_configUrlKey)]
  have hadded' := (Policy.distinct_cons.1 hdistinct).2
  refine ⟨s.policy.upsert key value added, ?_, ?_, Policy.settable_upsert he hadded, ?_⟩
  · rw [← hfirst]
    exact Store.set_of_settable hchild he
  · rw [← hfirst]
    exact Policy.distinct_upsert hdistinct key value
  · rw [Policy.overlay_upsert hadded']
    exact Store.set_of_settable hmerged he

/-- A property line that can be inlined sets its key. -/
theorem settable_of_isInlinable {p : Policy} {raw key value : Text}
    (hread : Line.read raw = .property key value) (h : (Line.read raw).isInlinable p) :
    p.Settable (key, value) := by
  obtain ⟨c, rest, rfl, hc⟩ := Line.exists_of_read_eq_property hread
  rw [hread] at h
  unfold Line.isInlinable Policy.action at h
  by_cases hmarker : isRemovalMarker c = true
  · simp [hmarker] at h
  · by_cases hvalue : (!p.allowBlank && Text.isBlank value) = true
    · simp [hmarker, hvalue] at h
    · refine ⟨⟨c, rest, rfl, hc, by simpa using hmarker⟩, ?_⟩
      cases ha : p.allowBlank <;> simp_all

theorem conditionHolds_of_isInlinable {p : Policy} {test : Except ConditionError Condition}
    (h : (Line.condition test).isInlinable p) {added entries : List Entry} {url : Text}
    (hchild : p.Distinct ((configUrlKey, url) :: added)) (hentries : p.Distinct entries)
    (stores : List Store) :
    conditionHolds (⟨p, (configUrlKey, url) :: added⟩ :: ⟨p, entries⟩ :: stores) test =
      conditionHolds (⟨p, p.overlay entries added⟩ :: stores) test := by
  cases test with
  | error e => rfl
  | ok asked =>
    have hkey : p.fold asked.key ≠ p.fold configUrlKey := by
      intro heq
      simp only [Line.isInlinable, Bool.not_eq_true', Text.sameLetters, beq_eq_false_iff_ne] at h
      unfold Policy.fold at heq
      split at heq
      · exact h heq
      · exact h (by rw [heq])
    rw [conditionHolds, conditionHolds, Store.lookupIn_overlay hchild hentries stores hkey]

variable {w : Surroundings} {c : Context} {reader reader' : Option Reader}

/-- A line that can be inlined does the same in both places. -/
theorem agree_step {s : Store} (hs : s.Distinct) {url : Text} {source : Url}
    {child merged : Machine} (hstore : Agree s url child.store merged.store)
    (hstate : child.state = merged.state) {raw : Text}
    (hraw : (Line.read raw).isInlinable s.policy) (line line' : Nat) :
    Agree s url (step w reader (c.below source s) line child (Line.read raw)).1.store
        (step w reader' c line' merged (Line.read raw)).1.store ∧
      (step w reader (c.below source s) line child (Line.read raw)).1.state =
        (step w reader' c line' merged (Line.read raw)).1.state := by
  rw [step_store, step_store, step_state, step_state, hstate]
  constructor
  · split
    · exact hstore
    · cases hread : Line.read raw with
      | property key value => exact agree_set hs hstore (settable_of_isInlinable hread hraw)
      | inclusion target isOptional => simp [hread, Line.isInlinable] at hraw
      | reserved key value => simp [hread, Line.isInlinable] at hraw
      | _ => exact hstore
  · cases hread : Line.read raw with
    | condition test =>
      rw [hread] at hraw
      obtain ⟨added, hchild, hdistinct, -, hmerged⟩ := hstore
      have hholds := conditionHolds_of_isInlinable hraw hdistinct hs (c.outer ++ w.ambient.toList)
      have hbelow : (c.below source s).scope w child.store =
          child.store :: s :: (c.outer ++ w.ambient.toList) := rfl
      have hscope : c.scope w merged.store = merged.store :: (c.outer ++ w.ambient.toList) := rfl
      rw [hbelow, hscope, hchild, hmerged]
      simp only [BlockState.behind, hholds]
    | _ => rfl

theorem agree_runLines {s : Store} (hs : s.Distinct) {url : Text} {source : Url}
    {child merged : Machine} (hstore : Agree s url child.store merged.store)
    (hstate : child.state = merged.state) {raws : List Text}
    (hraws : ∀ raw ∈ raws, (Line.read raw).isInlinable s.policy) (line line' : Nat) :
    Agree s url (runLines w reader (c.below source s) line child (raws.map Line.read)).1.store
        (runLines w reader' c line' merged (raws.map Line.read)).1.store ∧
      (runLines w reader (c.below source s) line child (raws.map Line.read)).1.state =
        (runLines w reader' c line' merged (raws.map Line.read)).1.state := by
  induction raws generalizing child merged line line' with
  | nil => exact ⟨hstore, hstate⟩
  | cons raw raws ih =>
    obtain ⟨hstore, hstate⟩ := agree_step hs hstore hstate (hraws raw List.mem_cons_self) line line'
    exact ih hstore hstate (fun r hr => hraws r (List.mem_cons_of_mem _ hr)) (line + 1) (line' + 1)

/-! ## Before and after the include -/

theorem isBlank_url_text (u : Url) : Text.isBlank u.text = false := by
  have hmem : ':' ∈ u.text := by simp [Url.text]
  rw [Text.isBlank, List.all_eq_false]
  exact ⟨':', hmem, by decide⟩

theorem agree_start (s : Store) (u : Url) :
    Agree s u.text (s.emptied.set configUrlKey u.text) s := by
  refine ⟨[], ?_, by simp [Policy.Distinct], by simp, rfl⟩
  have haction : s.emptied.policy.action (.set configUrlKey u.text) =
      .assign configUrlKey u.text := by
    have hmarker : isRemovalMarker '%' = false := by decide
    simp [configUrlKey, Policy.action, hmarker, isBlank_url_text u]
  rw [Store.set, Store.apply, haction]
  simp [Store.assign, Store.emptied, Store.keys, Policy.position?, configUrlKey, nameKey]

/-- Merging what has been included gives the store that it agrees with. -/
theorem merge_of_agree {s : Store} (hs : s.Distinct) {url : Text} {child merged : Store}
    (h : Agree s url child merged) :
    (s.merge (child.remove configUrlKey) false).store = merged := by
  obtain ⟨added, rfl, -, hadded, rfl⟩ := h
  have hremove : Store.remove ⟨s.policy, (configUrlKey, url) :: added⟩ configUrlKey =
      ⟨s.policy, added⟩ := by
    simp [Store.remove, Store.apply, Policy.action, Store.erase, Policy.position?, Store.keys,
      List.findIdx?_cons]
  rw [hremove, Store.merge_of_settable hs hadded]

/-- Executing an include comes to executing the lines of the resource. -/
theorem executed_inclusion {levels : Nat} {s : Store} (hs : s.Distinct) {target child : Text}
    (isOptional : Bool) {url : Url}
    (hurl : w.resolve c.source (expandIn (c.scope w s) target) = .ok url)
    (hfetch : w.fetch url = .ok child)
    (hlines : ∀ r ∈ Text.lines child, (Line.read r).isInlinable s.policy) (line : Nat) :
    executed w (readerAt w (levels + 1)) c s (.inclusion target isOptional) =
      (runLines w reader c line { store := s } ((Text.lines child).map Line.read)).1.store := by
  have hstart : Agree s url.text
      (Machine.store { store := s.emptied.set configUrlKey url.text })
      (Machine.store { store := s }) := agree_start s url
  have hagree : Agree s url.text
      (runLines w (readerAt w levels) (c.below url s) 1
        { store := s.emptied.set configUrlKey url.text }
        ((Text.lines child).map Line.read)).1.store
      (runLines w reader c line { store := s } ((Text.lines child).map Line.read)).1.store :=
    (agree_runLines hs hstart rfl hlines 1 line).1
  have hincluded : included? w (some (interpret w levels)) c s (expandIn (c.scope w s) target) =
      some ((runLines w (readerAt w levels) (c.below url s) 1
        { store := s.emptied.set configUrlKey url.text }
        ((Text.lines child).map Line.read)).1.store.remove configUrlKey) := by
    simp only [included?, hurl, hfetch, readIncluded, interpret_eq_runText w levels]
    rfl
  rw [executed, readerAt, hincluded]
  exact merge_of_agree hs hagree

/-- Outside a block, an include leaves the same situation as the lines of the resource, if these
leave no block open. -/
theorem situation_inclusion {levels : Nat} {m : Machine} (hs : m.store.Distinct)
    (hstate : m.state = .outside) {target child : Text} (isOptional : Bool) {url : Url}
    (hurl : w.resolve c.source (expandIn (c.scope w m.store) target) =
      .ok url)
    (hfetch : w.fetch url = .ok child)
    (hlines : ∀ r ∈ Text.lines child, (Line.read r).isInlinable m.store.policy)
    (hclosed : leavesOpen false ((Text.lines child).map Line.read) = false) (line : Nat) :
    (step w (readerAt w (levels + 1)) c line m (.inclusion target isOptional)).1.situation =
      (runLines w reader c line m ((Text.lines child).map Line.read)).1.situation := by
  have hstore : executed w (readerAt w (levels + 1)) c m.store (.inclusion target isOptional) =
      (runLines w reader c line { store := m.store } ((Text.lines child).map Line.read)).1.store :=
    executed_inclusion hs isOptional hurl hfetch hlines line
  have hsame : Machine.situation { store := m.store } = m.situation := by
    simp [Machine.situation, hstate]
  have hrun : (runLines w reader c line { store := m.store }
        ((Text.lines child).map Line.read)).1.store =
      (runLines w reader c line m ((Text.lines child).map Line.read)).1.store :=
    congrArg Prod.fst (situation_runLines hsame line line _)
  have hopen : (runLines w reader c line m
      ((Text.lines child).map Line.read)).1.state.isOpen = false := by
    rw [isOpen_runLines, hstate]
    exact hclosed
  have hend : (runLines w reader c line m ((Text.lines child).map Line.read)).1.state =
      .outside := by
    simpa [BlockState.isOpen] using hopen
  rw [Machine.situation, Machine.situation, step_store, step_state, hstate, if_neg (by simp),
    hstore, hrun, hend]
  rfl

/-- **Including is inlining.** Where an include is executed outside a block, and there is a resource
to be had whose lines can be inlined and leave no block open, the text leaves the same store as the
text that has the lines of the resource in place of the include. The keys of the store are distinct,
as edits keep them. -/
theorem interpret_include_eq_inlined {s : Store} (hs : s.Distinct) (hdepth : c.depth < maxDepth)
    {parent inlined child : Text} {before after : List Text} {raw : Text}
    (hparent : Text.lines parent = before ++ raw :: after)
    (hinlined : Text.lines inlined = before ++ Text.lines child ++ after) {target : Text}
    {isOptional : Bool} (hraw : Line.read raw = .inclusion target isOptional) {m : Machine}
    (hm : (runLines w (readerAt w (maxDepth - c.depth)) c 1 { store := s }
      (before.map Line.read)).1 = m)
    (hstate : m.state = .outside) {url : Url}
    (hurl : w.resolve c.source (expandIn (c.scope w m.store) target) =
      .ok url)
    (hfetch : w.fetch url = .ok child)
    (hlines : ∀ r ∈ Text.lines child, (Line.read r).isInlinable s.policy)
    (hclosed : leavesOpen false ((Text.lines child).map Line.read) = false) :
    (interpret w (maxDepth - c.depth) c s parent).store =
      (interpret w (maxDepth - c.depth) c s inlined).store := by
  obtain ⟨levels, hlevels⟩ : ∃ levels, maxDepth - c.depth = levels + 1 :=
    Nat.exists_eq_add_one_of_ne_zero (by omega)
  rw [hlevels] at hm ⊢
  have hdistinct : m.store.Distinct := by
    rw [← hm]
    exact distinct_runLines hs 1 _
  have hpolicy : m.store.policy = s.policy := by
    rw [← hm]
    exact policy_runLines 1 _ _
  have hsituation (line : Nat) :
      (step w (readerAt w (levels + 1)) c line m (.inclusion target isOptional)).1.situation =
        (runLines w (readerAt w (levels + 1)) c line m
          ((Text.lines child).map Line.read)).1.situation :=
    situation_inclusion hdistinct hstate isOptional hurl hfetch (hpolicy ▸ hlines) hclosed line
  simp only [interpret_eq_runText, runText, hparent, hinlined, List.map_append, List.map_cons,
    List.append_assoc]
  rw [runLines_append, runLines_append, hm, hraw, runLines_cons, runLines_append]
  exact congrArg Prod.fst (situation_runLines (hsituation _) _ _ (after.map Line.read))

/-- The included resource asks for a key that only the lines in front of the include set. -/
theorem interpret_include_eq_inlined_block :
    let child : Text := "%if a\nb=2\n%endif".toList
    let raw : Text := "%include=file:/r".toList
    let w : Surroundings := ⟨fun _ => .ok child, UrlReader.ascii, none, []⟩
    let c : Context := ⟨none, 1, []⟩
    (interpret w (maxDepth - c.depth) c {} ("a=1\n".toList ++ raw ++ "\nc=3".toList)).store =
      { entries := [(['a'], ['1']), (['b'], ['2']), (['c'], ['3'])] } := by
  intro child raw w c
  have hs : Store.Distinct {} := by simp [Store.Distinct, Policy.Distinct]
  have hparent : Text.lines ("a=1\n".toList ++ raw ++ "\nc=3".toList) =
      ["a=1".toList] ++ raw :: ["c=3".toList] := by decide
  have hinlined : Text.lines ("a=1\n".toList ++ child ++ "\nc=3".toList) =
      ["a=1".toList] ++ Text.lines child ++ ["c=3".toList] := by decide
  have hraw : Line.read raw = .inclusion "file:/r".toList false := rfl
  have hm : (runLines w (readerAt w (maxDepth - c.depth)) c 1 { store := {} }
      (["a=1".toList].map Line.read)).1 = { store := { entries := [(['a'], ['1'])] } } := by decide
  have hurl : w.resolve none (expandIn [{ entries := [(['a'], ['1'])] }] "file:/r".toList) =
      .ok ⟨Url.fileScheme, some {}, .rooted [['r']], none, none⟩ := rfl
  have hlines : ∀ r ∈ Text.lines child, (Line.read r).isInlinable {} := by decide
  have hclosed : leavesOpen false ((Text.lines child).map Line.read) = false := by decide
  have hsame := interpret_include_eq_inlined hs (by decide) hparent hinlined hraw hm rfl hurl rfl
    hlines hclosed
  rw [hsame]
  decide

end PropertyConfig
