import PropertyConfig.Proofs.Load.Ceiling
import PropertyConfig.Proofs.Load.Stores

/-!
# Where entries come from

Nothing is put into a store but what lines assign. Where the case of letters does not count, a value
can stand behind another spelling of its key, so that an entry is drawn from two lines
(`Policy.DrawnFrom`). Edits, merges, and the lines of a text keep entries drawn from what they were
drawn from (`drawn_interpretIn`). The URL that a store is opened with is no line's, and it stays
with the resource. So the entries of a load come from lines of the texts that it reads, except for
the URL of the root (`Loader.entries_drawn_from_texts`).
-/

namespace PropertyConfig

/-- An entry has its value from one of the given entries, which has the same key, and the spelling
of its key from one of them. -/
structure Policy.DrawnFrom (p : Policy) (given : Entry → Prop) (e : Entry) : Prop where
  value : ∃ d, given d ∧ p.sameKey d.1 e.1 ∧ d.2 = e.2
  key : ∃ d, given d ∧ d.1 = e.1

/-- All entries are drawn from the given ones. -/
def Store.DrawnFrom (p : Policy) (given : Entry → Prop) (s : Store) : Prop :=
  ∀ e ∈ s.entries, p.DrawnFrom given e

/-- Some line of a text assigns the value of an entry to its key. -/
def AssignedIn (t : Text) (e : Entry) : Prop :=
  ∃ raw ∈ Text.lines t, (Line.read raw).assigned? = some e

variable {p : Policy} {given : Entry → Prop} {e : Entry}

namespace Policy.DrawnFrom

theorem of_given (h : given e) : p.DrawnFrom given e :=
  ⟨⟨e, h, sameKey_iff.2 rfl, rfl⟩, ⟨e, h, rfl⟩⟩

theorem given_of_case (h : p.DrawnFrom given e) (hcase : p.ignoreCase = false) : given e := by
  obtain ⟨⟨key, value⟩, hgiven, hkey, hvalue⟩ := h.value
  obtain rfl : key = e.1 := by simpa [sameKey, hcase] using hkey
  obtain rfl : value = e.2 := hvalue
  exact hgiven

/-- An entry that takes the value of another one with the same key keeps its spelling. -/
theorem revalue {key value : Text} (h : p.DrawnFrom given (key, value)) (he : p.DrawnFrom given e)
    (hsame : p.fold e.1 = p.fold key) : p.DrawnFrom given (e.1, value) where
  value := by
    obtain ⟨d, hgiven, hkey, hvalue⟩ := h.value
    exact ⟨d, hgiven, sameKey_iff.2 ((sameKey_iff.1 hkey).trans hsame.symm), hvalue⟩
  key := he.key

/-- What is given under another key has no part in an entry. -/
theorem of_or {d : Entry} (h : p.DrawnFrom (fun e => given e ∨ e = d) e)
    (hne : p.fold e.1 ≠ p.fold d.1) : p.DrawnFrom given e where
  value := by
    obtain ⟨d', hgiven | rfl, hkey, hvalue⟩ := h.value
    · exact ⟨d', hgiven, hkey, hvalue⟩
    · exact absurd (sameKey_iff.1 hkey).symm hne
  key := by
    obtain ⟨d', hgiven | rfl, hkey⟩ := h.key
    · exact ⟨d', hgiven, hkey⟩
    · exact absurd (congrArg p.fold hkey).symm hne

end Policy.DrawnFrom

/-! ## Edits -/

namespace Store.Loaded

variable {s other : Store}

theorem drawnFrom_assign (h : s.Loaded p) (hs : s.DrawnFrom p given) {key value : Text}
    (hnew : p.DrawnFrom given (key, value)) : (s.assign key value).DrawnFrom p given := by
  intro e he
  have he := (entries_assign_perm h.distinct key value).subset he
  rw [h.policy_eq] at he
  exact Policy.forall_mem_upsert hnew hs (fun d hd hsame => hnew.revalue hd hsame) e he

theorem drawnFrom_erase (h : s.Loaded p) (hs : s.DrawnFrom p given) (key : Text) :
    (s.erase key).DrawnFrom p given := by
  intro e he
  rw [entries_erase h.distinct] at he
  exact hs e (List.mem_filter.1 he).1

theorem drawnFrom_set (h : s.Loaded p) (hs : s.DrawnFrom p given) {key value : Text}
    (hnew : p.DrawnFrom given (key, value)) : (s.set key value).DrawnFrom p given := by
  rw [Store.set, Store.apply, h.policy_eq]
  cases haction : p.action (.set key value) with
  | nothing => exact hs
  | assign key' value' =>
    obtain ⟨rfl, rfl, -, -⟩ := Policy.action_set_eq_assign haction
    exact h.drawnFrom_assign hs hnew
  | erase key' => exact h.drawnFrom_erase hs key'

theorem drawnFrom_merge (h : s.Loaded p) (hs : s.DrawnFrom p given) (hother : other.Loaded p)
    (hothers : other.DrawnFrom p given) (withName : Bool) :
    (s.merge other withName).store.DrawnFrom p given := by
  have hadded : ∀ e ∈ other.entries.filter (fun e => withName || e.1 != nameKey),
      p.Loadable e ∧ p.DrawnFrom given e := fun e he =>
    have hmem := (List.mem_filter.1 he).1
    ⟨hother.loadable e hmem, hothers e hmem⟩
  rw [Store.merge, copying]
  generalize other.entries.filter (fun e => withName || e.1 != nameKey) = added at hadded
  induction added generalizing s with
  | nil => exact hs
  | cons e added ih =>
    obtain ⟨hloadable, hdrawn⟩ := hadded e List.mem_cons_self
    exact ih (h.set fun _ => hloadable) (h.drawnFrom_set hs hdrawn)
      fun d hd => hadded d (List.mem_cons_of_mem _ hd)

/-- A store is opened with nothing but the URL of its resource. -/
theorem drawnFrom_opened (h : s.Loaded p) (given : Entry → Prop) (url : Url) :
    (s.opened url).DrawnFrom p fun e => given e ∨ e = (configUrlKey, url.text) :=
  h.emptied.drawnFrom_set (fun _ he => absurd he List.not_mem_nil) (.of_given (.inr rfl))

/-- Without the URL that a store was opened with, its entries are drawn from the others. -/
theorem drawnFrom_remove (h : s.Loaded p) {value : Text}
    (hs : s.DrawnFrom p fun e => given e ∨ e = (configUrlKey, value)) :
    (s.remove configUrlKey).DrawnFrom p given := by
  intro e he
  rw [h.entries_remove] at he
  obtain ⟨hmem, hne⟩ := List.mem_filter.1 he
  exact (hs e hmem).of_or (by simpa using hne)

end Store.Loaded

/-! ## Texts -/

variable {w : Surroundings} {c c₀ : Context} {s s₀ : Store} {t t₀ : Text}

/-- A line that is executed keeps the entries drawn from some, if what it assigns is among them, and
if the store that it merges is drawn from them. -/
theorem Place.drawnFrom_executed (q : Place w c s t) (hstate : q.machine.state ≠ .skipped)
    (hloaded : q.machine.store.Loaded p) (hs : q.machine.store.DrawnFrom p given)
    (hassigned : ∀ e, (Line.read q.raw).assigned? = some e → given e)
    (hchild : ∀ (i : Inclusion w c s t) url child, i.toPlace = q → i.outcome = .ok (url, child) →
      (readIncluded (interpretIn w) c q.machine.store url child).1.DrawnFrom p given) :
    (executed w (c.allowed (interpretIn w)) c q.machine.store
      (Line.read q.raw)).DrawnFrom p given := by
  cases hraw : Line.read q.raw with
  | property key value =>
    exact hloaded.drawnFrom_set hs (.of_given (hassigned _ (by rw [hraw]; rfl)))
  | reserved key value =>
    exact hloaded.drawnFrom_set hs (.of_given (hassigned _ (by rw [hraw]; rfl)))
  | inclusion written isOptional =>
    rw [executed, included?_allowed]
    cases hfollow : follow w c (expandIn (c.scope w q.machine.store) written) with
    | error f => exact hs
    | ok found =>
      obtain ⟨url, child⟩ := found
      let i : Inclusion w c s t := ⟨q, written, isOptional, hraw, hstate⟩
      have hread : (readIncluded (interpretIn w) c q.machine.store url child).1.Loaded p :=
        (loaded_interpretIn (hloaded.opened url)).remove configUrlKey
      exact hloaded.drawnFrom_merge hs hread (hchild i url child rfl hfollow) false
  | _ => exact hs

/-- Interpreting a text keeps the entries drawn from some, if all that lines of visited texts assign
is among them. -/
theorem drawn_interpretIn (hloaded : s.Loaded p) (hs : s.DrawnFrom p given)
    (hassigned : ∀ c' s' t' e, Visits w c s t c' s' t' → AssignedIn t' e → given e) :
    (interpretIn w c s t).store.DrawnFrom p given := by
  induction c using Context.below_induction generalizing s t given with
  | step c ih =>
    refine store_invariant (fun q hstate hq => ?_) hs
    have hmachine := q.loaded hloaded
    refine q.drawnFrom_executed hstate hmachine hq (fun e he => ?_)
      fun i url child hi houtcome => ?_
    · refine hassigned c s t e .start ⟨q.raw, ?_, he⟩
      rw [q.lines_eq]
      exact List.mem_append_right _ List.mem_cons_self
    · -- all that the included store has from elsewhere is its URL, which is taken out again
      subst hi
      refine (loaded_interpretIn (hmachine.opened url)).drawnFrom_remove
        (ih (i.depth_lt houtcome) url i.machine.store (hmachine.opened url)
          (hmachine.drawnFrom_opened given url) fun c' s' t' e hvisits he => ?_)
      exact .inl (hassigned c' s' t' e (hvisits.through houtcome) he)

/-- What a visited include leads to is asked for. -/
theorem Visits.mem_fetched (h : Visits w c₀ s₀ t₀ c s t) (i : Inclusion w c s t) {url : Url}
    {child : Text} (hi : i.outcome = .ok (url, child)) :
    url ∈ fetched (interpretIn w c₀ s₀ t₀).events := by
  have hasked : asked? i.outcome = some url := by
    rw [hi]
    rfl
  exact mem_fetched_of_fetch_mem
    (mem_events_iff.2 ⟨c, s, t, h, fetch_mem_ownEvents_iff.2 ⟨rfl, i, hasked⟩⟩)

/-- What is visited is the text at the start, or it is fetched, and it stands deeper. -/
theorem Visits.start_or_fetched (h : Visits w c₀ s₀ t₀ c s t) :
    (c = c₀ ∧ t = t₀) ∨
      c₀.depth < c.depth ∧ ∃ url ∈ fetched (interpretIn w c₀ s₀ t₀).events,
        c.source = some url ∧ w.fetch url = .ok t := by
  cases h with
  | start => exact .inl ⟨rfl, rfl⟩
  | included h i hi =>
    exact .inr ⟨Nat.lt_succ_of_le h.depth_le, _, h.mem_fetched i hi, rfl,
      (follow_eq_ok_iff.1 hi).2.2⟩

/-- No other spelling of the key for the URL can be assigned. -/
theorem eq_configUrlKey_of_assigned {raw : Text} (h : (Line.read raw).assigned? = some e)
    (hfold : p.fold e.1 = p.fold configUrlKey) : e.1 = configUrlKey := by
  cases hraw : Line.read raw with
  | property key value =>
    rw [hraw] at h
    obtain rfl : (key, value) = e := Option.some.inj h
    obtain ⟨c, rest, rfl, hc⟩ := Line.exists_of_read_eq_property hraw
    exact absurd hfold (Policy.fold_cons_ne hc _ _)
  | reserved key value =>
    rw [hraw] at h
    obtain rfl : (key.key, value) = e := Option.some.inj h
    cases key with
    | configUrl => rfl
    | name => exact absurd hfold Policy.fold_nameKey_ne
  | _ =>
    rw [hraw] at h
    cases h

/-! ## Loads -/

namespace Loader

/-- A load reads a text: that of the root, or that of a resource that is fetched. -/
def Obtains (l : Loader) (root : Root) (t : Text) : Prop :=
  root = .text t ∨ ∃ url ∈ (l.load root).fetched, l.surroundings.fetch url = .ok t

/-- Some line of a text that a load reads assigns the value of an entry to its key. -/
def Assigns (l : Loader) (root : Root) (e : Entry) : Prop :=
  ∃ t, l.Obtains root t ∧ AssignedIn t e

variable {l : Loader} {root : Root}

theorem fetched_loadRoot (source : Option Url) (t₀ : Text) :
    (l.loadRoot source t₀).fetched = source.toList ++ fetched (l.interpretRoot source t₀).events :=
  rfl

/-- The source of what is read is the URL from which it is fetched. Only a root that is given as a
text has none. -/
theorem source_of_reads (h : l.Reads root c s t) :
    (c.source = none ↔ root = .text t ∧ c.depth = 1) ∧
      ∀ url ∈ c.source, url ∈ (l.load root).fetched ∧ l.surroundings.fetch url = .ok t := by
  cases root with
  | text t₀ =>
    rcases Visits.start_or_fetched h with ⟨rfl, rfl⟩ | ⟨hdepth, url, hurl, hsource, hfetch⟩
    · exact ⟨by simp, nofun⟩
    · have hdeep : c.depth ≠ 1 := Nat.ne_of_gt hdepth
      rw [hsource]
      refine ⟨by simp [hdeep], ?_⟩
      rintro _ ⟨⟩
      exact ⟨hurl, hfetch⟩
  | url url =>
    obtain ⟨source, t₀, hurl, hroot, hvisits⟩ := h
    rw [load_url hurl hroot, fetched_loadRoot]
    rcases Visits.start_or_fetched hvisits with ⟨rfl, rfl⟩ | ⟨-, url', hurl', hsource, hfetch⟩
    · refine ⟨by simp, ?_⟩
      rintro _ ⟨⟩
      exact ⟨List.mem_append_left _ (by simp), hroot⟩
    · rw [hsource]
      refine ⟨by simp, ?_⟩
      rintro _ ⟨⟩
      exact ⟨List.mem_append_right _ hurl', hfetch⟩

theorem obtains_of_reads (h : l.Reads root c s t) : l.Obtains root t := by
  obtain ⟨hnone, hsome⟩ := source_of_reads h
  cases hsource : c.source with
  | none => exact .inl (hnone.1 hsource).1
  | some url => exact .inr ⟨url, hsome url hsource⟩

/-- Apart from the URL of the root, all entries are drawn from what lines of visited texts
assign. -/
theorem drawn_interpretRoot {source : Option Url} {given : Entry → Prop}
    (hassigned : ∀ c s t e, l.Visits source t₀ c s t → AssignedIn t e → given e)
    (hgiven : ∀ e, given e → l.policy.fold e.1 = l.policy.fold configUrlKey → e.1 = configUrlKey)
    (he : e ∈ (l.interpretRoot source t₀).store.entries) :
    (∃ url, source = some url ∧ e = (configUrlKey, url.text)) ∨ l.policy.DrawnFrom given e := by
  have hloaded := l.loaded_rootStore source
  rw [interpretRoot_eq] at he
  cases source with
  | none =>
    have hempty : (l.rootStore none).DrawnFrom l.policy given :=
      fun _ hmem => absurd hmem List.not_mem_nil
    exact .inr (drawn_interpretIn hloaded hempty hassigned e he)
  | some url =>
    have hopened := (Store.Loaded.empty l.policy).drawnFrom_opened given url
    have hdrawn := drawn_interpretIn hloaded hopened
      (fun c s t e hvisits h => .inl (hassigned c s t e hvisits h)) e he
    by_cases hfold : l.policy.fold e.1 = l.policy.fold configUrlKey
    · have hkey : e.1 = configUrlKey :=
        ((loaded_interpretIn hloaded).loadable e he).eq_of_fold (.inl rfl) hfold
      obtain ⟨d, hd, hsame, hvalue⟩ := hdrawn.value
      -- the value stands behind the key itself, with the loader or in a line
      have hsame : d.1 = configUrlKey := by
        rcases hd with hd | rfl
        · exact hgiven d hd ((Policy.sameKey_iff.1 hsame).trans hfold)
        · rfl
      obtain rfl : d = e := Prod.ext (hsame.trans hkey.symm) hvalue
      rcases hd with hd | rfl
      · exact .inr (.of_given hd)
      · exact .inl ⟨url, rfl, rfl⟩
    · exact .inr (hdrawn.of_or hfold)

theorem mem_of_mem_loadRoot {source : Option Url} {r : LoadReport}
    (hr : (l.loadRoot source t₀).result = .ok r) (he : e ∈ r.store.entries) :
    e ∈ (l.interpretRoot source t₀).store.entries := by
  have hloaded := l.loaded_interpretRoot source t₀
  obtain rfl := Except.ok.inj hr
  cases hname : l.includeName with
  | true => simpa [hname] using he
  | false =>
    simp only [hname, Bool.false_eq_true, if_false, Store.remove, Store.apply, Policy.action,
      Store.entries_erase hloaded.distinct] at he
    exact (List.mem_filter.1 he).1

/-- **Where entries come from.** Let a load succeed, whatever its ambient store says. Each entry of
the store that it produces, unless it is the URL of the root resource, comes from the texts that are
read: some line of one of them assigns its value, to a key that is the same as its own, and some
line assigns to its key as it is spelled. Where the case of letters counts, one line says all of the
entry. -/
theorem entries_drawn_from_texts (l : Loader) (root : Root) {r : LoadReport}
    (hr : (l.load root).result = .ok r) {e : Entry} (he : e ∈ r.store.entries) :
    (∃ url source, root = .url url ∧
      l.surroundings.resolve none url = .ok source ∧
        e = (configUrlKey, source.text)) ∨
    l.policy.DrawnFrom (l.Assigns root) e ∧ (l.policy.ignoreCase = false → l.Assigns root e) := by
  have hgiven : ∀ e, l.Assigns root e → l.policy.fold e.1 = l.policy.fold configUrlKey →
      e.1 = configUrlKey := by
    rintro e ⟨t, -, raw, -, hraw⟩ hfold
    exact eq_configUrlKey_of_assigned hraw hfold
  have hassigned : ∀ c s t e, l.Reads root c s t → AssignedIn t e → l.Assigns root e :=
    fun c s t e hreads h => ⟨t, obtains_of_reads hreads, h⟩
  cases root with
  | text t₀ =>
    rcases drawn_interpretRoot hassigned hgiven (mem_of_mem_loadRoot hr he) with ⟨_, h, _⟩ | h
    · cases h
    · exact .inr ⟨h, h.given_of_case⟩
  | url url =>
    obtain ⟨source, t₀, hurl, hfetch, hload⟩ := exists_of_load_url hr
    rw [hload] at hr
    rcases drawn_interpretRoot (fun c s t e hvisits => hassigned c s t e
      ⟨source, t₀, hurl, hfetch, hvisits⟩) hgiven (mem_of_mem_loadRoot hr he) with
      ⟨_, hsource, rfl⟩ | h
    · obtain rfl := Option.some.inj hsource
      exact .inl ⟨url, source, rfl, hurl, rfl⟩
    · exact .inr ⟨h, h.given_of_case⟩

/-- The case of letters does not count, every resource has the text `a=${x}`, and `x` is defined
outside. -/
def respellingLoader : Loader where
  surroundings :=
    { fetch := fun _ => .ok "a=${x}".toList
      readUrl := UrlReader.ascii
      ambient := some { entries := [(['x'], ['9'])] }
      workingDirectory := [] }
  policy := { ignoreCase := true }
  includeName := true

/-- The text `A=1`, `%include=file:/${x}`. -/
def respelledText : Text := "A=1\n%include=file:/${x}".toList

/-- The key is spelled as in one resource, and has its value from the other one. -/
theorem entries_drawn_from_texts_respelled :
    ∃ r, (respellingLoader.load (.text respelledText)).result = .ok r ∧
      r.store.entries = [(['A'], "${x}".toList)] ∧
      respellingLoader.policy.DrawnFrom (respellingLoader.Assigns (.text respelledText))
        (['A'], "${x}".toList) := by
  have hload : (respellingLoader.load (.text respelledText)).result = .ok _ :=
    result_loadRoot_of_includeName rfl none respelledText
  have hentries : (respellingLoader.interpretRoot none respelledText).store.entries =
      [(['A'], "${x}".toList)] := by decide +kernel
  refine ⟨_, hload, hentries, ?_⟩
  rcases entries_drawn_from_texts respellingLoader _ hload
      (hentries ▸ List.mem_singleton_self _) with ⟨_, _, h, _⟩ | h
  · cases h
  · exact h.1

end Loader

end PropertyConfig
