import PropertyConfig.Proofs.Load.Blocks
import PropertyConfig.Proofs.Load.Ceiling

/-!
# Skipped lines

What stands in a line that is skipped does not matter, as long as it is none of the lines that make
up blocks. Texts that differ in such lines only come to the same, and so do loads in which resources
differ in such lines only (`Loader.skipped_without_influence`). Two runs stay together line by line
(`runLines_eq_of_sameButSkipped`): a line of both texts does the same in both, and one that differs
does nothing in either.
-/

namespace PropertyConfig

/-- The machine that the line with an index acts on, the first line having the number `line`. -/
def reached (w : Surroundings) (reader : Option Reader) (c : Context) (line : Nat) (m : Machine)
    (raws : List Text) (index : Nat) : Machine :=
  (runLines w reader c line m ((raws.take index).map Line.read)).1

/-- Two lists of lines differ only in plain lines, and only where the first ones are skipped. -/
structure SameButSkipped (w : Surroundings) (reader : Option Reader) (c : Context) (line : Nat)
    (m : Machine) (raws raws' : List Text) : Prop where
  length_eq : raws.length = raws'.length
  skipped : ∀ index raw raw', raws[index]? = some raw → raws'[index]? = some raw' → raw ≠ raw' →
    (reached w reader c line m raws index).state = .skipped ∧ (Line.read raw).isPlain ∧
      (Line.read raw').isPlain

/-- What a text comes to from some machine on. -/
def interpretFrom (w : Surroundings) (c : Context) (m : Machine) (t : Text) : Outcome :=
  c.outcome (runLines w (c.allowed (interpretIn w)) c 1 m ((Text.lines t).map Line.read))

variable {w : Surroundings} {c : Context} {reader reader' : Option Reader} {m : Machine}

/-! ## Two runs -/

theorem step_of_skipped {l : Line} (hplain : l.isPlain) (hstate : m.state = .skipped)
    (line : Nat) : step w reader c line m l = (m, []) := by
  cases l with
  | invalidIf _ | condition _ | otherwise _ | endIf _ => cases hplain
  | _ => exact if_pos hstate

namespace SameButSkipped

theorem refl (line : Nat) (raws : List Text) : SameButSkipped w reader c line m raws raws where
  length_eq := rfl
  skipped index raw raw' hraw hraw' hne := by
    rw [hraw] at hraw'
    exact absurd (Option.some.inj hraw') hne

variable {line : Nat} {raw raw' : Text} {raws raws' : List Text}

theorem tail (h : SameButSkipped w reader c line m (raw :: raws) (raw' :: raws')) :
    SameButSkipped w reader c (line + 1) (step w reader c line m (Line.read raw)).1 raws raws' where
  length_eq := Nat.succ.inj h.length_eq
  skipped index := h.skipped (index + 1)

end SameButSkipped

/-- Two runs over lines that differ only where they are skipped stay together, if the lines that do
not differ do the same in both. -/
theorem runLines_eq_of_sameButSkipped {w' : Surroundings} {line : Nat} {raws raws' : List Text}
    (h : SameButSkipped w reader c line m raws raws')
    (hstep : ∀ index raw, raws[index]? = some raw →
      let m := reached w reader c line m raws index
      step w reader c (line + index) m (Line.read raw) =
        step w' reader' c (line + index) m (Line.read raw)) :
    runLines w reader c line m (raws.map Line.read) =
      runLines w' reader' c line m (raws'.map Line.read) := by
  induction raws generalizing line m raws' with
  | nil =>
    obtain rfl : raws' = [] := List.length_eq_zero_iff.1 h.length_eq.symm
    rfl
  | cons raw raws ih =>
    obtain ⟨raw', raws', rfl⟩ : ∃ raw' rest, raws' = raw' :: rest :=
      List.exists_cons_of_length_eq_add_one h.length_eq.symm
    have hhead : step w reader c line m (Line.read raw) =
        step w' reader' c line m (Line.read raw') := by
      by_cases hsame : raw = raw'
      · exact hsame ▸ hstep 0 raw rfl
      · obtain ⟨hstate, hplain, hplain'⟩ := h.skipped 0 raw raw' rfl rfl hsame
        have hstate : m.state = .skipped := hstate
        rw [step_of_skipped hplain hstate, step_of_skipped hplain' hstate]
    have htail := ih h.tail fun index raw' hraw' => by
      rw [Nat.add_assoc, Nat.add_comm 1]
      exact hstep (index + 1) raw' hraw'
    rw [List.map_cons, List.map_cons, runLines_cons, runLines_cons, htail, hhead]

/-! ## Other resources -/

/-- The surroundings with other resources. -/
def Surroundings.refetching (w : Surroundings) (fetch : Url → Except LoadError Text) :
    Surroundings := { w with fetch }

@[simp] theorem Surroundings.fetch_refetching (w : Surroundings)
    (fetch : Url → Except LoadError Text) : (w.refetching fetch).fetch = fetch := rfl

@[simp] theorem Surroundings.resolve_refetching (w : Surroundings)
    (fetch : Url → Except LoadError Text) : (w.refetching fetch).resolve = w.resolve := rfl

variable {fetch : Url → Except LoadError Text}

/-- An include that leads nowhere still does so if what cannot be fetched still cannot. -/
theorem follow_refetching_of_error
    (herror : ∀ url e, w.fetch url = .error e → fetch url = .error e) {target : Text} {f : Failure}
    (h : follow w c target = .error f) : follow (w.refetching fetch) c target = .error f := by
  unfold follow at h ⊢
  by_cases hblank : Text.trim target = []
  · simpa only [hblank, if_true] using h
  · by_cases hdeep : maxDepth ≤ c.depth
    · simpa only [hblank, hdeep, if_true, if_false] using h
    · simp only [hblank, hdeep, if_false, Surroundings.resolve_refetching,
        Surroundings.fetch_refetching] at h ⊢
      cases hresolve : w.resolve c.source target with
      | error e => simpa only [hresolve] using h
      | ok url =>
        simp only [hresolve] at h ⊢
        cases hfetch : w.fetch url with
        | error e => simpa only [hfetch, herror url e hfetch] using h
        | ok t => simp [hfetch] at h

/-- A line does the same with other resources if what cannot be fetched still cannot, and reading
the resource that the line follows still comes to the same. -/
theorem step_refetching {read read' : Reader} {line : Nat} {l : Line}
    (herror : ∀ url e, w.fetch url = .error e → fetch url = .error e)
    (hok : ∀ url t, followed? w c m l = some (url, t) → ∃ t', fetch url = .ok t' ∧
      read (c.below url m.store) (m.store.opened url) t =
        read' (c.below url m.store) (m.store.opened url) t') :
    step w (c.allowed read) c line m l =
      step (w.refetching fetch) (c.allowed read') c line m l := by
  cases l with
  | inclusion written isOptional =>
    by_cases hstate : m.state = .skipped
    · rw [step_of_skipped rfl hstate, step_of_skipped rfl hstate]
    · cases hfollow : follow w c (expandIn (c.scope w m.store) written) with
      | error f =>
        rw [step_inclusion_of_error read hstate hfollow, step_inclusion_of_error read' hstate
          (follow_refetching_of_error herror hfollow)]
        rfl
      | ok found =>
        obtain ⟨url, t⟩ := found
        obtain ⟨t', hfetch, hread⟩ :=
          hok url t (followed?_eq_some_iff.2 ⟨_, _, rfl, hstate, hfollow⟩)
        obtain ⟨hdepth, hurl, -⟩ := follow_eq_ok_iff.1 hfollow
        have hfollow' : follow (w.refetching fetch) c
            (expandIn (c.scope (w.refetching fetch) m.store) written) = .ok (url, t') :=
          follow_eq_ok_iff.2 ⟨hdepth, hurl, hfetch⟩
        rw [Store.opened] at hread
        rw [step_inclusion_of_ok read hstate hfollow, step_inclusion_of_ok read' hstate hfollow',
          readIncluded, readIncluded, hread]
        rfl
  | _ => rfl

/-! ## Loads -/

/-- With `fetch`, every resource that can be had is another one that differs only in lines that are
skipped wherever the resource is read; `reads` tells where which text is. -/
structure FetchedAlike (w : Surroundings) (fetch : Url → Except LoadError Text)
    (reads : Context → Store → Text → Prop) : Prop where
  error : ∀ url e, w.fetch url = .error e → fetch url = .error e
  ok : ∀ url t, w.fetch url = .ok t → ∃ t', fetch url = .ok t' ∧
    ∀ c s, reads c s t → c.source = some url →
      SameButSkipped w (c.allowed (interpretIn w)) c 1 { store := s } (Text.lines t) (Text.lines t')

theorem FetchedAlike.mono {reads reads' : Context → Store → Text → Prop}
    (h : FetchedAlike w fetch reads) (hreads : ∀ c s t, reads' c s t → reads c s t) :
    FetchedAlike w fetch reads' where
  error := h.error
  ok url t ht := by
    obtain ⟨t', ht', hsame⟩ := h.ok url t ht
    exact ⟨t', ht', fun c s hread => hsame c s (hreads c s t hread)⟩

/-- Texts that differ only in skipped lines come to the same, also where the resources that they
include differ so. -/
theorem interpretIn_refetching {s : Store} {t t' : Text}
    (halike : FetchedAlike w fetch (Visits w c s t))
    (hsame : SameButSkipped w (c.allowed (interpretIn w)) c 1 { store := s } (Text.lines t)
      (Text.lines t')) :
    interpretIn w c s t = interpretIn (w.refetching fetch) c s t' := by
  induction c using Context.below_induction generalizing s t t' with
  | step c ih =>
    have hlines : runLines w (c.allowed (interpretIn w)) c 1 { store := s }
          ((Text.lines t).map Line.read) =
        runLines (w.refetching fetch) (c.allowed (interpretIn (w.refetching fetch))) c 1
          { store := s } ((Text.lines t').map Line.read) := by
      refine runLines_eq_of_sameButSkipped hsame fun index raw hraw => ?_
      refine step_refetching halike.error fun url child hfollowed => ?_
      obtain ⟨i, hi, houtcome⟩ := (followed?_place_iff (Place.ofIndex hraw)).1 hfollowed
      have hmachine : i.machine = reached w (c.allowed (interpretIn w)) c 1 { store := s }
          (Text.lines t) index := congrArg Place.machine hi
      have hvisits : Visits w c s t (c.below url i.machine.store) (i.machine.store.opened url)
          child := .included .start i houtcome
      have hbelow : FetchedAlike w fetch (Visits w (c.below url i.machine.store)
          (i.machine.store.opened url) child) :=
        halike.mono fun _ _ _ hvisits => hvisits.through houtcome
      obtain ⟨-, -, hfetch⟩ := follow_eq_ok_iff.1 houtcome
      obtain ⟨child', hchild, hsame⟩ := halike.ok url child hfetch
      refine ⟨child', hchild, ?_⟩
      rw [← hmachine]
      exact ih (i.depth_lt houtcome) url i.machine.store hbelow (hsame _ _ hvisits rfl)
    rw [interpretIn_eq, interpretIn_eq, runText, runText, hlines]

namespace Loader

/-- The loader that finds other resources. -/
def refetching (l : Loader) (fetch : Url → Except LoadError Text) : Loader :=
  { l with surroundings := l.surroundings.refetching fetch }

theorem loadRoot_refetching (l : Loader) (source : Option Url) {t₀ t₀' : Text}
    (halike : FetchedAlike l.surroundings fetch (l.Visits source t₀))
    (hsame : SameButSkipped l.surroundings
      (Context.allowed ⟨source, 1, []⟩ (interpretIn l.surroundings)) ⟨source, 1, []⟩ 1
      { store := l.rootStore source } (Text.lines t₀) (Text.lines t₀')) :
    l.loadRoot source t₀ = (l.refetching fetch).loadRoot source t₀' := by
  have hroot : l.interpretRoot source t₀ = (l.refetching fetch).interpretRoot source t₀' :=
    interpretIn_refetching halike hsame
  rw [loadRoot, loadRoot, hroot]
  rfl

theorem load_refetching (l : Loader) (root : Root)
    (halike : FetchedAlike l.surroundings fetch (l.Reads root)) :
    l.load root = (l.refetching fetch).load root := by
  cases root with
  | text t₀ => exact l.loadRoot_refetching none halike (.refl 1 _)
  | url url =>
    refine load_url_related (fun _ => rfl) rfl halike.error fun source t₀ hurl hfetch => ?_
    have hvisits : ∀ c s t, l.Visits (some source) t₀ c s t → l.Reads (.url url) c s t :=
      fun c s t h => ⟨source, t₀, hurl, hfetch, h⟩
    obtain ⟨t₀', hfetch', hsame⟩ := halike.ok source t₀ hfetch
    exact ⟨t₀', hfetch', l.loadRoot_refetching (some source) (halike.mono hvisits)
      (hsame _ _ (hvisits _ _ _ .start) rfl)⟩

/-- **Skipped lines have no influence.** From any machine on, texts that differ only in plain lines
that are skipped come to the same store, and to the same events in the same order. And so does a
load when every resource is changed only in plain lines that are skipped wherever the resource is
read during the load: it asks for the same URLs, and gives the same store and diagnostics. -/
theorem skipped_without_influence :
    (∀ (w : Surroundings) (c : Context) (m : Machine) (t t' : Text),
      SameButSkipped w (c.allowed (interpretIn w)) c 1 m (Text.lines t) (Text.lines t') →
        interpretFrom w c m t = interpretFrom w c m t') ∧
    ∀ (l : Loader) (fetch : Url → Except LoadError Text),
      (∀ root, FetchedAlike l.surroundings fetch (l.Reads root) →
        l.load root = (l.refetching fetch).load root) ∧
      ∀ target url, FetchedAlike l.surroundings fetch (l.Reads (.url url)) →
        l.loadInto target url = (l.refetching fetch).loadInto target url := by
  refine ⟨fun w c m t t' hsame => ?_,
    fun l fetch => ⟨l.load_refetching, fun target url halike => ?_⟩⟩
  · rw [interpretFrom, interpretFrom, runLines_eq_of_sameButSkipped hsame fun _ _ _ => rfl]
  · have hload : l.loadUrl url = (l.refetching fetch).loadUrl url :=
      l.load_refetching (.url url) halike
    rw [loadInto, loadInto, hload]
    rfl

/-- The lines `%if =`, `%else`, a given one, and `%endif`. Behind a faulty condition it is the lines
behind `%else` that are skipped. -/
def withSkipped (raw : Text) : Text :=
  List.intercalate ['\n'] ["%if =".toList, Line.otherwiseWord, raw, Line.endIfWord]

/-- Every resource is `withSkipped` with the line `b=1`. -/
def skippingLoader : Loader where
  surroundings :=
    { fetch := fun _ => .ok (withSkipped "b=1".toList)
      readUrl := UrlReader.ascii
      ambient := none
      workingDirectory := [] }
  policy := {}
  includeName := true

theorem sameButSkipped_withSkipped (w : Surroundings) (reader : Option Reader) (c : Context)
    (s : Store) :
    SameButSkipped w reader c 1 { store := s } (Text.lines (withSkipped "b=1".toList))
      (Text.lines (withSkipped circularLine)) where
  length_eq := by decide
  skipped index raw raw' hraw hraw' hne := by
    match index with
    | 0 | 1 | 3 =>
      rw [← Option.some.inj hraw, ← Option.some.inj hraw'] at hne
      exact absurd rfl hne
    | 2 =>
      obtain rfl := Option.some.inj hraw
      obtain rfl := Option.some.inj hraw'
      exact ⟨rfl, rfl, rfl⟩
    | _ + 4 => cases hraw

/-- In every resource, the line `b=1` that is skipped becomes an include of the resource itself. -/
theorem skipped_without_influence_circular :
    interpretFrom skippingLoader.surroundings ⟨none, 1, []⟩ { store := {} }
        (withSkipped "b=1".toList) =
      interpretFrom skippingLoader.surroundings ⟨none, 1, []⟩ { store := {} }
        (withSkipped circularLine) ∧
    skippingLoader.load (.text circularLine) =
      (skippingLoader.refetching fun _ => .ok (withSkipped circularLine)).load
        (.text circularLine) := by
  obtain ⟨htext, hload⟩ := skipped_without_influence
  refine ⟨htext _ _ _ _ _ (sameButSkipped_withSkipped _ _ _ _),
    (hload skippingLoader _).1 _ ⟨fun url e h => (by cases h), fun url t h => ?_⟩⟩
  obtain rfl := Except.ok.inj h
  exact ⟨_, rfl, fun c s _ _ => sameButSkipped_withSkipped _ _ c s⟩

end Loader

end PropertyConfig
