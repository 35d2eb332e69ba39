import PropertyConfig.Load.Loader
import PropertyConfig.Proofs.Load.Following

/-!
# Places in a run

A place is a line of a text while this is interpreted. The text comes to what the lines before the
place come to, then its own line, then the lines behind it (`Place.interpretIn_eq`). What is kept of
the store at each place, the text keeps (`store_invariant`).

Along with a text the ones that it includes are interpreted, and those that these include in turn
(`Visits`). All that becomes known is what the texts that are visited make known by themselves,
apart from what they include (`mem_events_iff`).
-/

namespace PropertyConfig

variable {w : Surroundings} {c c₀ : Context} {s s₀ : Store} {t t₀ : Text}

/-- A line of a text that is interpreted in a context into a store. -/
structure Place (w : Surroundings) (c : Context) (s : Store) (t : Text) where
  before : List Text
  raw : Text
  after : List Text
  lines_eq : Text.lines t = before ++ raw :: after

namespace Place

/-- The place of the line with an index. -/
def ofIndex {index : Nat} {raw : Text} (h : (Text.lines t)[index]? = some raw) : Place w c s t where
  before := (Text.lines t).take index
  raw := raw
  after := (Text.lines t).drop (index + 1)
  lines_eq := by
    obtain ⟨hlt, rfl⟩ := List.getElem?_eq_some_iff.1 h
    rw [← List.drop_eq_getElem_cons hlt, List.take_append_drop]

variable (p : Place w c s t)

/-- The number of the line. -/
def line : Nat := p.before.length + 1

theorem length_before : 1 + (p.before.map Line.read).length = p.line := by
  rw [List.length_map, line, Nat.add_comm]

/-- What the lines before come to. -/
def earlier : Machine × List Event :=
  runLines w (c.allowed (interpretIn w)) c 1 { store := s } (p.before.map Line.read)

/-- What the line acts on. -/
def machine : Machine := p.earlier.1

/-- What the line does. -/
def result : Machine × List Event :=
  step w (c.allowed (interpretIn w)) c p.line p.machine (Line.read p.raw)

/-- What the lines behind come to. -/
def later : Machine × List Event :=
  runLines w (c.allowed (interpretIn w)) c (p.line + 1) p.result.1 (p.after.map Line.read)

theorem getElem?_lines : (Text.lines t)[p.before.length]? = some p.raw := by
  rw [p.lines_eq, List.getElem?_append_right (Nat.le_refl _), Nat.sub_self, List.getElem?_cons_zero]

theorem interpretIn_eq :
    interpretIn w c s t =
      ⟨p.later.1.store, p.later.1.state,
        p.earlier.2 ++ p.result.2 ++ p.later.2 ++ endEvents c p.later.1⟩ := by
  have hlines : (Text.lines t).map Line.read =
      p.before.map Line.read ++ Line.read p.raw :: p.after.map Line.read := by
    rw [p.lines_eq, List.map_append, List.map_cons]
  rw [PropertyConfig.interpretIn_eq, runText, hlines, runLines_append, runLines_cons,
    p.length_before]
  simp only [later, result, machine, earlier, List.append_assoc]

end Place

/-- What holds of the store before the first line, and is kept by every line that is executed, holds
of the store in the end. -/
theorem store_invariant {P : Store → Prop}
    (hplace : ∀ p : Place w c s t, p.machine.state ≠ .skipped → P p.machine.store →
      P (executed w (c.allowed (interpretIn w)) c p.machine.store (Line.read p.raw)))
    (h : P s) : P (interpretIn w c s t).store := by
  rw [interpretIn_eq]
  refine runLines_invariant (m := { store := s }) (fun before' l after' hlines => ?_) h
  obtain ⟨before, rest, htext, rfl, hrest⟩ := List.map_eq_append_iff.1 hlines
  obtain ⟨raw, after, rfl, rfl, rfl⟩ := List.map_eq_cons_iff.1 hrest
  exact hplace ⟨before, raw, after, htext⟩

/-- An include that is executed. -/
structure Inclusion (w : Surroundings) (c : Context) (s : Store) (t : Text) extends
    Place w c s t where
  written : Text
  isOptional : Bool
  read_eq : Line.read raw = .inclusion written isOptional
  executed : toPlace.machine.state ≠ .skipped

namespace Inclusion

variable (i : Inclusion w c s t)

/-- What the include names. -/
def target : Text := expandIn (c.scope w i.machine.store) i.written

/-- The resource that the include leads to, or why it leads to none. -/
def outcome : Except Failure (Url × Text) := follow w c i.target

theorem result_of_error {f : Failure} (h : i.outcome = .error f) :
    i.result =
      (i.machine, debugNote c i.line i.machine (.including i.target) ++
        f.events c i.line i.machine i.isOptional (Text.trim i.target)) := by
  rw [Place.result, i.read_eq]
  exact step_inclusion_of_error _ i.executed h

theorem fetched_result_of_error {f : Failure} (h : i.outcome = .error f) :
    fetched i.result.2 = f.url?.toList := by
  rw [i.result_of_error h, fetched_append, fetched_debugNote, f.fetched_events, List.nil_append]

theorem serious_result_of_error {f : Failure} (h : i.outcome = .error f) :
    serious i.result.2 =
      [⟨c.source, some i.line, f.notice c i.isOptional (Text.trim i.target)⟩] := by
  rw [i.result_of_error h, serious_append, serious_debugNote _ _ _ rfl, f.serious_events,
    List.nil_append]

theorem result_of_ok {url : Url} {child : Text} (h : i.outcome = .ok (url, child)) :
    i.result =
      let included := readIncluded (interpretIn w) c i.machine.store url child
      ({ i.machine with store := (i.machine.store.merge included.1 false).store },
        debugNote c i.line i.machine (.including i.target) ++
          (asking c i.line i.machine (Text.trim i.target) url ++ included.2)) := by
  rw [Place.result, i.read_eq]
  exact step_inclusion_of_ok _ i.executed h

end Inclusion

theorem followed?_place_iff (p : Place w c s t) {found : Url × Text} :
    followed? w c p.machine (Line.read p.raw) = some found ↔
      ∃ i : Inclusion w c s t, i.toPlace = p ∧ i.outcome = .ok found := by
  rw [followed?_eq_some_iff]
  constructor
  · rintro ⟨written, isOptional, hread, hstate, hfollow⟩
    exact ⟨⟨p, written, isOptional, hread, hstate⟩, rfl, hfollow⟩
  · rintro ⟨i, rfl, h⟩
    exact ⟨i.written, i.isOptional, i.read_eq, i.executed, h⟩

/-! ## Texts that are visited -/

/-- Where the text `t₀` is interpreted in the context `c₀` into the store `s₀`, the text `t` is
interpreted in the context `c` into the store `s`. -/
inductive Visits (w : Surroundings) (c₀ : Context) (s₀ : Store) (t₀ : Text) :
    Context → Store → Text → Prop
  | start : Visits w c₀ s₀ t₀ c₀ s₀ t₀
  | included {c s t url child} : Visits w c₀ s₀ t₀ c s t → (i : Inclusion w c s t) →
      i.outcome = .ok (url, child) →
      Visits w c₀ s₀ t₀ (c.below url i.machine.store) (i.machine.store.opened url) child

/-- What an included text visits, the text that includes it visits. -/
theorem Visits.through {i : Inclusion w c₀ s₀ t₀} {url : Url} {child : Text}
    (hi : i.outcome = .ok (url, child))
    (h : Visits w (c₀.below url i.machine.store) (i.machine.store.opened url) child c s t) :
    Visits w c₀ s₀ t₀ c s t := by
  induction h with
  | start => exact .included .start i hi
  | included _ j hj ih => exact .included ih j hj

theorem Inclusion.depth_lt {i : Inclusion w c s t} {url : Url} {child : Text}
    (h : i.outcome = .ok (url, child)) : c.depth < maxDepth :=
  (follow_eq_ok_iff.1 h).1

theorem Visits.depth_le (h : Visits w c₀ s₀ t₀ c s t) : c₀.depth ≤ c.depth := by
  induction h with
  | start => exact Nat.le_refl _
  | included _ i _ ih => exact Nat.le_succ_of_le ih

/-- A text is visited during the load of the root text `t₀`. -/
def Loader.Visits (l : Loader) (source : Option Url) (t₀ : Text) :
    Context → Store → Text → Prop :=
  PropertyConfig.Visits l.surroundings ⟨source, 1, []⟩ (l.rootStore source) t₀

theorem Loader.interpretRoot_eq (l : Loader) (source : Option Url) (t₀ : Text) :
    l.interpretRoot source t₀ =
      interpretIn l.surroundings ⟨source, 1, []⟩ (l.rootStore source) t₀ := rfl

/-- What a load starts from. -/
inductive Loader.Root
  | text (t : Text)
  | url (url : Text)

def Loader.load (l : Loader) : Loader.Root → Attempt LoadReport
  | .text t => l.loadText t
  | .url url => l.loadUrl url

namespace Loader

variable {l l' : Loader} {url : Text}

theorem load_url {source : Url}
    (hurl : l.surroundings.resolve none url = .ok source)
    (hfetch : l.surroundings.fetch source = .ok t₀) :
    l.load (.url url) = l.loadRoot (some source) t₀ := by
  simp only [load, loadUrl, hurl, hfetch]

theorem result_loadRoot_of_includeName (h : l.includeName = true)
    (source : Option Url) (t : Text) :
    (l.loadRoot source t).result =
      .ok
        { store := (l.interpretRoot source t).store
          diagnostics := (l.interpretRoot source t).events.filterMap Event.diagnostic? } := by
  rw [loadRoot, if_pos h]

/-- A load of a URL that succeeds is one of the text that the URL leads to. -/
theorem exists_of_load_url {r : LoadReport} (h : (l.load (.url url)).result = .ok r) :
    ∃ source t₀, l.surroundings.resolve none url = .ok source ∧
      l.surroundings.fetch source = .ok t₀ ∧ l.load (.url url) = l.loadRoot (some source) t₀ := by
  cases hurl : l.surroundings.resolve none url with
  | error e => simp [load, loadUrl, hurl] at h
  | ok source =>
    cases hfetch : l.surroundings.fetch source with
    | error e => simp [load, loadUrl, hurl, hfetch] at h
    | ok t₀ => exact ⟨source, t₀, rfl, hfetch, load_url hurl hfetch⟩

/-- Two loads of a URL are related if the texts can be had that it leads to, and the loads of these
are related, or if the first loader cannot have the text, and the second one cannot either. -/
theorem load_url_related {R : Attempt LoadReport → Attempt LoadReport → Prop} (hrefl : ∀ a, R a a)
    (hresolve : l'.surroundings.resolve none url = l.surroundings.resolve none url)
    (herror : ∀ url e, l.surroundings.fetch url = .error e → l'.surroundings.fetch url = .error e)
    (hok : ∀ source t, l.surroundings.resolve none url = .ok source →
      l.surroundings.fetch source = .ok t → ∃ t', l'.surroundings.fetch source = .ok t' ∧
        R (l.loadRoot (some source) t) (l'.loadRoot (some source) t')) :
    R (l.load (.url url)) (l'.load (.url url)) := by
  rw [load, load, loadUrl, loadUrl, hresolve]
  cases hurl : l.surroundings.resolve none url with
  | error e => exact hrefl _
  | ok source =>
    cases hfetch : l.surroundings.fetch source with
    | error e =>
      simp only [hfetch, herror source e hfetch]
      exact hrefl _
    | ok t =>
      obtain ⟨t', hfetch', hroot⟩ := hok source t hurl hfetch
      simpa only [hfetch, hfetch'] using hroot

end Loader

/-- During a load, the text `t` is interpreted in the context `c` into the store `s`. -/
def Loader.Reads (l : Loader) (root : Loader.Root) (c : Context) (s : Store) (t : Text) : Prop :=
  match root with
  | .text t₀ => l.Visits none t₀ c s t
  | .url url =>
    ∃ source t₀, l.surroundings.resolve none url = .ok source ∧
      l.surroundings.fetch source = .ok t₀ ∧ l.Visits (some source) t₀ c s t

/-! ## What becomes known -/

/-- Reads resources without telling what becomes known. -/
def Reader.silenced (read : Reader) : Reader := fun c s t => { read c s t with events := [] }

/-- What a text makes known by itself, without what the texts make known that it includes. -/
def ownEvents (w : Surroundings) (c : Context) (s : Store) (t : Text) : List Event :=
  (runText w (c.allowed (interpretIn w).silenced) c s t).events

variable {read : Reader}

/-- What becomes known of the resource that a line leads to. -/
def eventsBelow (w : Surroundings) (read : Reader) (c : Context) (m : Machine) (l : Line) :
    List Event :=
  match followed? w c m l with
  | some (url, t) => (read (c.below url m.store) (m.store.opened url) t).events
  | none => []

theorem mem_eventsBelow_iff {m : Machine} {l : Line} {e : Event} :
    e ∈ eventsBelow w read c m l ↔
      ∃ url t, followed? w c m l = some (url, t) ∧
        e ∈ (read (c.below url m.store) (m.store.opened url) t).events := by
  rw [eventsBelow]
  cases followed? w c m l with
  | none => simp
  | some found =>
    obtain ⟨url, t⟩ := found
    simp

/-- Without a telling reader, a line does the same and tells nothing from below, which comes last
otherwise. -/
theorem step_silenced (line : Nat) (m : Machine) (l : Line) :
    (step w (c.allowed read.silenced) c line m l).1 = (step w (c.allowed read) c line m l).1 ∧
      (step w (c.allowed read) c line m l).2 =
        (step w (c.allowed read.silenced) c line m l).2 ++ eventsBelow w read c m l := by
  cases hl : followed? w c m l with
  | none =>
    have hsame : step w (c.allowed read.silenced) c line m l =
        step w (c.allowed read) c line m l :=
      step_congr fun url t h => by rw [hl] at h; cases h
    simp [hsame, eventsBelow, hl]
  | some found =>
    obtain ⟨url, t⟩ := found
    obtain ⟨written, isOptional, rfl, hstate, hfollow⟩ := followed?_eq_some_iff.1 hl
    rw [step_inclusion_of_ok read hstate hfollow, step_inclusion_of_ok _ hstate hfollow]
    refine ⟨rfl, ?_⟩
    simp [eventsBelow, hl, readIncluded, Reader.silenced, Store.opened]

theorem runLines_silenced (line : Nat) (m : Machine) (lines : List Line) :
    (runLines w (c.allowed read.silenced) c line m lines).1 =
      (runLines w (c.allowed read) c line m lines).1 := by
  induction lines generalizing line m with
  | nil => rfl
  | cons l lines ih => rw [runLines_cons, runLines_cons, (step_silenced line m l).1, ih]

/-- What a line makes known by itself. -/
def Place.ownEvents (p : Place w c s t) : List Event :=
  (step w (c.allowed (interpretIn w).silenced) c p.line p.machine (Line.read p.raw)).2

theorem mem_ownEvents_iff {e : Event} :
    e ∈ ownEvents w c s t ↔
      (∃ p : Place w c s t, e ∈ p.ownEvents) ∨
        e ∈ endEvents c (runLines w (c.allowed (interpretIn w)) c 1 { store := s }
          ((Text.lines t).map Line.read)).1 := by
  rw [PropertyConfig.ownEvents, mem_events_runText_iff]
  simp only [runLines_silenced]
  refine or_congr_left ⟨?_, ?_⟩
  · rintro ⟨before, raw, after, htext, he⟩
    exact ⟨⟨before, raw, after, htext⟩, he⟩
  · rintro ⟨p, he⟩
    exact ⟨p.before, p.raw, p.after, p.lines_eq, he⟩

/-- What becomes known is what the text makes known by itself, and what the texts make known that it
includes. -/
theorem mem_events_interpretIn_iff {e : Event} :
    e ∈ (interpretIn w c s t).events ↔
      e ∈ ownEvents w c s t ∨
        ∃ (i : Inclusion w c s t) (url : Url) (child : Text), i.outcome = .ok (url, child) ∧
          e ∈ (interpretIn w (c.below url i.machine.store) (i.machine.store.opened url)
            child).events := by
  rw [interpretIn_eq, mem_events_runText_iff, mem_ownEvents_iff]
  constructor
  · rintro (⟨before, raw, after, htext, he⟩ | he)
    · let p : Place w c s t := ⟨before, raw, after, htext⟩
      rw [(step_silenced _ _ _).2] at he
      rcases List.mem_append.1 he with he | he
      · exact .inl (.inl ⟨p, he⟩)
      · obtain ⟨url, child, hfollowed, he⟩ := mem_eventsBelow_iff.1 he
        obtain ⟨i, hi, houtcome⟩ := (followed?_place_iff p).1 hfollowed
        exact .inr ⟨i, url, child, houtcome, hi ▸ he⟩
    · exact .inl (.inr he)
  · have hline (p : Place w c s t)
        (he : e ∈ p.ownEvents ++ eventsBelow w (interpretIn w) c p.machine (Line.read p.raw)) :
        e ∈ p.result.2 := by
      rwa [Place.result, (step_silenced _ _ _).2]
    rintro ((⟨p, he⟩ | he) | ⟨i, url, child, houtcome, he⟩)
    · exact .inl ⟨p.before, p.raw, p.after, p.lines_eq, hline p (List.mem_append_left _ he)⟩
    · exact .inr he
    · have hfollowed := (followed?_place_iff i.toPlace).2 ⟨i, rfl, houtcome⟩
      have hbelow := mem_eventsBelow_iff.2 ⟨url, child, hfollowed, he⟩
      exact .inl ⟨i.before, i.raw, i.after, i.lines_eq,
        hline i.toPlace (List.mem_append_right _ hbelow)⟩

theorem Visits.events_subset (h : Visits w c₀ s₀ t₀ c s t) {e : Event}
    (he : e ∈ (interpretIn w c s t).events) : e ∈ (interpretIn w c₀ s₀ t₀).events := by
  induction h with
  | start => exact he
  | included _ i hi ih => exact ih (mem_events_interpretIn_iff.2 (.inr ⟨i, _, _, hi, he⟩))

/-- All that becomes known comes from the texts that are visited. -/
theorem mem_events_iff {e : Event} :
    e ∈ (interpretIn w c₀ s₀ t₀).events ↔
      ∃ c s t, Visits w c₀ s₀ t₀ c s t ∧ e ∈ ownEvents w c s t := by
  constructor
  · intro he
    induction c₀ using Context.below_induction generalizing s₀ t₀ with
    | step c₀ ih =>
      rcases mem_events_interpretIn_iff.1 he with he | ⟨i, url, child, hi, he⟩
      · exact ⟨c₀, s₀, t₀, .start, he⟩
      · obtain ⟨c, s, t, hvisits, he⟩ := ih (i.depth_lt hi) url i.machine.store he
        exact ⟨c, s, t, hvisits.through hi, he⟩
  · rintro ⟨c, s, t, hvisits, he⟩
    exact hvisits.events_subset (mem_events_interpretIn_iff.2 (.inl he))

end PropertyConfig
