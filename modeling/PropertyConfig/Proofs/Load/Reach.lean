import PropertyConfig.Proofs.Load.Run

/-!
# Includes that a run reaches

What a run asks for is what the includes that it executes resolve to, those in the resources that it
includes among them (`mem_fetched_interpret_iff`).
-/

namespace PropertyConfig

/-- The URLs that are asked for, in this order. -/
def fetched (events : List Event) : List Url := events.filterMap Event.fetched?

@[simp]
theorem fetched_nil : fetched [] = [] := rfl

@[simp]
theorem fetched_append (a b : List Event) : fetched (a ++ b) = fetched a ++ fetched b :=
  List.filterMap_append

@[simp]
theorem fetched_cons_noteAt (c : Context) (line : Nat) (n : Notice) (events : List Event) :
    fetched (c.noteAt line n :: events) = fetched events := rfl

@[simp]
theorem fetched_cons_fetch (depth : Nat) (url : Url) (events : List Event) :
    fetched (.fetch depth url :: events) = url :: fetched events := rfl

variable {w : Surroundings} {reader : Option Reader} {c : Context}

/-! ## What a line asks for -/

/-- The URLs that are asked for where a target is included: the one that it resolves to, and what
the resource asks for. -/
def askedFor (w : Surroundings) (reader : Option Reader) (c : Context) (s : Store)
    (target : Text) : List Url :=
  match reader, w.resolve c.source target with
  | some read, .ok url =>
    url ::
      match w.fetch url with
      | .ok t => fetched (readIncluded read c s url t).2
      | .error _ => []
  | _, _ => []

theorem fetched_include? (line : Nat) (m : Machine) (target : Text) (isOptional : Bool) :
    fetched (include? w reader c line m target isOptional).2 =
      askedFor w reader c m.store target := by
  unfold include? askedFor
  simp only [Surroundings.resolve_trim]
  by_cases hblank : Text.trim target = []
  · simp [hblank, Surroundings.resolve_of_blank hblank]
  · simp only [hblank, if_false]
    split
    · simp
    · rename_i h
      simp [h]
    · rename_i h
      have hnoted (b : Bool) (e : Event) (he : e.fetched? = none) :
          fetched (if b then [e] else []) = [] := by
        cases b <;> simp [fetched, he]
      simp only [h, includeUrl, fetched_append, hnoted _ (c.noteAt _ _) rfl, List.nil_append]
      split <;> simp_all

/-- Only an include that is executed asks for anything. -/
theorem fetched_step (line : Nat) (m : Machine) (l : Line) :
    fetched (step w reader c line m l).2 =
      match l with
      | .inclusion target _ =>
        if m.state = .skipped then []
        else askedFor w reader c m.store (expandIn (c.scope w m.store) target)
      | _ => [] := by
  unfold step
  cases l with
  | condition test =>
    cases hm : m.state <;> cases test <;> simp only [stepCondition, hm] <;> try rfl
    split <;> rfl
  | otherwise trailing =>
    cases hm : m.state <;> cases trailing <;> simp [stepOtherwise, hm]
  | endIf trailing =>
    cases hm : m.state <;> cases trailing <;> simp [stepEndIf, hm]
  | inclusion target isOptional =>
    simp only [stepPlain, stepInclude]
    split
    · rfl
    · rw [fetched_append, fetched_include?]
      split <;> rfl
  | log message =>
    simp only [stepPlain, stepLog]
    split
    · rfl
    · split <;> rfl
  | debugMode value =>
    simp only [stepPlain, stepDebugMode]
    split
    · rfl
    · split <;> rfl
  | invalidIf written => rfl
  | _ =>
    simp only [stepPlain]
    split <;> rfl

/-! ## What a run asks for -/

/-- While a text is interpreted into `s`, an include of `target` is executed on the store `s'`. -/
def Executes (w : Surroundings) (levels : Nat) (c : Context) (s : Store) (t : Text) (s' : Store)
    (target : Text) : Prop :=
  ∃ before raw after written isOptional m, Text.lines t = before ++ raw :: after ∧
    Line.read raw = .inclusion written isOptional ∧
    (runLines w (readerAt w levels) c 1 { store := s } (before.map Line.read)).1 = m ∧
    m.state ≠ .skipped ∧ m.store = s' ∧ expandIn (c.scope w s') written = target

/-- When a text is interpreted that may include others `levels` deep, an include of `target` that
stands in the resource `source` is executed, and it is not too deep to be followed. -/
inductive Reaches (w : Surroundings) :
    (levels : Nat) → Context → Store → Text → (source : Option Url) → (target : Text) → Prop
  | here {levels c s t s' target} : Executes w (levels + 1) c s t s' target →
      Reaches w (levels + 1) c s t c.source target
  | deeper {levels c s t s' target url child source target'} :
      Executes w (levels + 1) c s t s' target →
      w.resolve c.source target = .ok url → w.fetch url = .ok child →
      Reaches w levels (c.below url s') (s'.emptied.set configUrlKey url.text) child source
        target' →
      Reaches w (levels + 1) c s t source target'

theorem mem_fetched_runLines_iff {url : Url} (line : Nat) (m : Machine) (lines : List Line) :
    url ∈ fetched (runLines w reader c line m lines).2 ↔
      ∃ before l after, lines = before ++ l :: after ∧
        url ∈ fetched (step w reader c (line + before.length)
          (runLines w reader c line m before).1 l).2 := by
  simp only [fetched, List.mem_filterMap, mem_runLines_iff]
  constructor
  · rintro ⟨e, ⟨before, l, after, hlines, he⟩, hurl⟩
    exact ⟨before, l, after, hlines, e, he, hurl⟩
  · rintro ⟨before, l, after, hlines, e, he, hurl⟩
    exact ⟨e, ⟨before, l, after, hlines, he⟩, hurl⟩

theorem mem_fetched_runText_iff {levels : Nat} {s : Store} {t : Text} {url : Url} :
    url ∈ fetched (runText w (readerAt w levels) c s t).events ↔
      ∃ s' target, Executes w levels c s t s' target ∧
        url ∈ askedFor w (readerAt w levels) c s' target := by
  have hend (m : Machine) : fetched (endEvents c m) = [] := by
    unfold endEvents
    split <;> rfl
  simp only [runText, fetched_append, hend, List.append_nil, mem_fetched_runLines_iff]
  constructor
  · rintro ⟨before', l, after', hlines, h⟩
    obtain ⟨before, rest, htext, rfl, hrest⟩ := List.map_eq_append_iff.1 hlines
    obtain ⟨raw, after, rfl, rfl, rfl⟩ := List.map_eq_cons_iff.1 hrest
    rw [fetched_step] at h
    split at h
    · rename_i written isOptional hread
      split at h
      · simp at h
      · rename_i hstate
        exact ⟨_, _, ⟨before, raw, after, written, isOptional, _, htext, hread, rfl, hstate, rfl,
          rfl⟩, h⟩
    · simp at h
  · rintro ⟨s', target, ⟨before, raw, after, written, isOptional, m, htext, hread, rfl, hstate, rfl,
      rfl⟩, h⟩
    refine ⟨before.map Line.read, Line.read raw, after.map Line.read, by simp [htext], ?_⟩
    rw [hread, fetched_step]
    simpa [hstate] using h

/-- What a run asks for is what the includes that it reaches resolve to. -/
theorem mem_fetched_interpret_iff {levels : Nat} {c : Context} {s : Store} {t : Text} {url : Url} :
    url ∈ fetched (interpret w levels c s t).events ↔
      ∃ source target, Reaches w levels c s t source target ∧
        w.resolve source target = .ok url := by
  rw [interpret_eq_runText, mem_fetched_runText_iff]
  induction levels generalizing c s t with
  | zero =>
    constructor
    · rintro ⟨s', target, -, h⟩
      simp [readerAt, askedFor] at h
    · rintro ⟨source, target, h, -⟩
      cases h
  | succ levels ih =>
    constructor
    · rintro ⟨s', target, hexec, h⟩
      simp only [readerAt, askedFor] at h
      split at h
      · rename_i read url' hread hurl
        obtain rfl := Option.some.inj hread
        rcases List.mem_cons.1 h with rfl | h
        · exact ⟨c.source, target, .here hexec, hurl⟩
        · split at h
          · rename_i child hfetch
            rw [readIncluded, interpret_eq_runText, mem_fetched_runText_iff, ih] at h
            obtain ⟨source, target', hreach, hresolve⟩ := h
            exact ⟨source, target', .deeper hexec hurl hfetch hreach, hresolve⟩
          · simp at h
      · simp at h
    · rintro ⟨source, target, hreach, hresolve⟩
      cases hreach with
      | here hexec => exact ⟨_, target, hexec, by simp [readerAt, askedFor, hresolve]⟩
      | deeper hexec hurl hfetch hreach =>
        refine ⟨_, _, hexec, ?_⟩
        simp only [readerAt, askedFor, hurl, hfetch, List.mem_cons]
        rw [readIncluded, interpret_eq_runText, mem_fetched_runText_iff, ih]
        exact .inr ⟨source, target, hreach, hresolve⟩

end PropertyConfig
