import PropertyConfig.Proofs.Load.Place
import PropertyConfig.Url.Parse

/-!
# The depth of includes

Resources may include each other in circles, and still every load comes to an end. `Finishes` goes
through lines as they are executed: it knows no bound beforehand, and only looks at the depth where
a line includes something. Every text finishes, and it comes to what interpreting it gives
(`interprets_iff`). Only resources at the first two levels of a load ask for others, and an include
at the third one is passed over with a warning (`Loader.recursion_bounded`).
-/

namespace PropertyConfig

variable {w : Surroundings} {c : Context} {s : Store} {t : Text}

/-- What a text came to, given what its lines came to. -/
def Context.outcome (c : Context) (r : Machine × List Event) : Outcome :=
  ⟨r.1.store, r.1.state, r.2 ++ endEvents c r.1⟩

/-- Reads a resource whose lines came to `r`. -/
def answer (r : Machine × List Event) : Reader := fun c _ _ => c.outcome r

/-- Some lines, the first of which has the number `line`, come to an end. A line that leads to a
resource is done only when the lines of the resource have come to an end. -/
inductive Finishes (w : Surroundings) :
    Context → (line : Nat) → Machine → List Line → Machine × List Event → Prop
  | nil {c line m} : Finishes w c line m [] (m, [])
  | alone {c line m l rest read last} : followed? w c m l = none →
      Finishes w c (line + 1) (step w (c.allowed read) c line m l).1 rest last →
      Finishes w c line m (l :: rest)
        (last.1, (step w (c.allowed read) c line m l).2 ++ last.2)
  | following {c line m l rest url t r last} : followed? w c m l = some (url, t) →
      Finishes w (c.below url m.store) 1 { store := m.store.opened url }
        ((Text.lines t).map Line.read) r →
      Finishes w c (line + 1) (step w (c.allowed (answer r)) c line m l).1 rest last →
      Finishes w c line m (l :: rest)
        (last.1, (step w (c.allowed (answer r)) c line m l).2 ++ last.2)

/-- A text comes to an end with an outcome. -/
def Interprets (w : Surroundings) (c : Context) (s : Store) (t : Text) (o : Outcome) : Prop :=
  ∃ r, Finishes w c 1 { store := s } ((Text.lines t).map Line.read) r ∧ o = c.outcome r

theorem interpretIn_eq_outcome (s : Store) (t : Text) :
    interpretIn w c s t =
      c.outcome (runLines w (c.allowed (interpretIn w)) c 1 { store := s }
        ((Text.lines t).map Line.read)) :=
  interpretIn_eq s t

/-- The answer that the lines of a resource come to is the one that interpreting it gives. -/
theorem step_answer {line : Nat} {m : Machine} {l : Line} {url : Url} {t : Text}
    (hl : followed? w c m l = some (url, t)) :
    step w (c.allowed (answer (runLines w ((c.below url m.store).allowed (interpretIn w))
        (c.below url m.store) 1 { store := m.store.opened url }
        ((Text.lines t).map Line.read)))) c line m l =
      step w (c.allowed (interpretIn w)) c line m l := by
  refine step_congr fun url' t' hsome => ?_
  obtain ⟨rfl, rfl⟩ : url = url' ∧ t = t' := by
    rw [hl] at hsome
    simpa using hsome
  rw [interpretIn_eq_outcome, answer]

/-- Lines that come to an end come to what a run over them gives. -/
theorem Finishes.eq_runLines {line : Nat} {m : Machine} {lines : List Line}
    {r : Machine × List Event} (h : Finishes w c line m lines r) :
    r = runLines w (c.allowed (interpretIn w)) c line m lines := by
  induction h with
  | nil => rfl
  | @alone c line m l rest read last hl _ ih =>
    have hstep : step w (c.allowed read) c line m l =
        step w (c.allowed (interpretIn w)) c line m l :=
      step_congr fun url t hsome => by
        rw [hl] at hsome
        cases hsome
    rw [runLines_cons, ← hstep, ← ih]
  | @following c line m l rest url t r last hl _ _ ihchild ih =>
    subst ihchild
    rw [runLines_cons, ← step_answer hl, ← ih]

/-- All lines come to an end. -/
theorem finishes_runLines (line : Nat) (m : Machine) (lines : List Line) :
    Finishes w c line m lines (runLines w (c.allowed (interpretIn w)) c line m lines) := by
  induction c using Context.below_induction generalizing line m lines with
  | step c ihbelow =>
    induction lines generalizing line m with
    | nil => exact .nil
    | cons l rest ih =>
      rw [runLines_cons]
      cases hl : followed? w c m l with
      | none => exact .alone hl (ih (line + 1) _)
      | some found =>
        obtain ⟨url, t⟩ := found
        obtain ⟨written, isOptional, -, -, hfollow⟩ := followed?_eq_some_iff.1 hl
        have hdepth : c.depth < maxDepth := (follow_eq_ok_iff.1 hfollow).1
        rw [← step_answer hl]
        exact .following hl (ihbelow hdepth url m.store 1 _ _) (ih (line + 1) _)

/-- Every text comes to an end, and it does so with one outcome only. -/
theorem interprets_iff {o : Outcome} : Interprets w c s t o ↔ o = interpretIn w c s t := by
  rw [interpretIn_eq_outcome]
  constructor
  · rintro ⟨r, hr, rfl⟩
    rw [hr.eq_runLines]
  · rintro rfl
    exact ⟨_, finishes_runLines 1 _ _, rfl⟩

/-! ## Who asks -/

theorem mem_fetched_of_fetch_mem {depth : Nat} {url : Url} {events : List Event}
    (h : .fetch depth url ∈ events) : url ∈ fetched events :=
  List.mem_filterMap.2 ⟨_, h, rfl⟩

theorem fetch_mem_asking_iff {line depth : Nat} {m : Machine} {target : Text} {url url' : Url} :
    .fetch depth url ∈ asking c line m target url' ↔ depth = c.depth ∧ url = url' := by
  cases hm : m.debugMode <;> simp [asking, debugNote, hm, Context.noteAt]

/-- By itself, an include asks for what it names, and says at which depth it stands. -/
theorem Inclusion.fetch_mem_ownEvents_iff (i : Inclusion w c s t) {depth : Nat} {url : Url} :
    .fetch depth url ∈ i.ownEvents ↔ depth = c.depth ∧ asked? i.outcome = some url := by
  have hdebug (n : Notice) : .fetch depth url ∉ debugNote c i.line i.machine n := by
    intro h
    have hfetched := mem_fetched_of_fetch_mem h
    rw [fetched_debugNote] at hfetched
    cases hfetched
  rw [Place.ownEvents, i.read_eq]
  cases h : i.outcome with
  | error f =>
    rw [step_inclusion_of_error _ i.executed h]
    cases f <;>
      simp [hdebug, Failure.events, Failure.url?, asked?, fetch_mem_asking_iff, Context.noteAt,
        eq_comm]
  | ok found =>
    obtain ⟨url', child⟩ := found
    rw [step_inclusion_of_ok _ i.executed h]
    simp [hdebug, asked?, fetch_mem_asking_iff, readIncluded, Reader.silenced, eq_comm]

/-- By itself, a text asks for what its includes name. -/
theorem fetch_mem_ownEvents_iff {depth : Nat} {url : Url} :
    .fetch depth url ∈ ownEvents w c s t ↔
      depth = c.depth ∧ ∃ i : Inclusion w c s t, asked? i.outcome = some url := by
  rw [mem_ownEvents_iff]
  constructor
  · rintro (⟨p, hp⟩ | hend)
    · have hfetched := mem_fetched_of_fetch_mem hp
      rw [Place.ownEvents, fetched_step] at hfetched
      split at hfetched
      · rename_i written isOptional hread
        split at hfetched
        · simp at hfetched
        · rename_i hstate
          let i : Inclusion w c s t := ⟨p, written, isOptional, hread, hstate⟩
          obtain ⟨hdepth, hasked⟩ := i.fetch_mem_ownEvents_iff.1 hp
          exact ⟨hdepth, i, hasked⟩
      · simp at hfetched
    · unfold endEvents at hend
      split at hend <;> simp at hend
  · rintro ⟨hdepth, i, hasked⟩
    exact .inl ⟨i.toPlace, i.fetch_mem_ownEvents_iff.2 ⟨hdepth, hasked⟩⟩

/-! ## Loads -/

theorem Inclusion.result_of_tooDeep (i : Inclusion w c s t) (hdepth : maxDepth ≤ c.depth)
    (htarget : Text.trim i.target ≠ []) :
    i.result.1 = i.machine ∧ fetched i.result.2 = [] ∧
      serious i.result.2 =
        [⟨c.source, some i.line, .includeSkipped c.depth (Text.trim i.target)⟩] := by
  have houtcome : i.outcome = .error .tooDeep := by
    rw [Inclusion.outcome, follow, if_neg htarget, if_pos hdepth]
  refine ⟨?_, i.fetched_result_of_error houtcome, i.serious_result_of_error houtcome⟩
  rw [i.result_of_error houtcome]

namespace Loader

/-- **The recursion of includes is bounded.** However resources include each other, a load comes to
an end, with one outcome. What it asks for on behalf of includes is what those in visited resources
name that stand at the first or the second level. An include at the third level, if it names
anything, changes nothing, asks for nothing, and is warned of once. -/
theorem recursion_bounded (l : Loader) (source : Option Url) (t₀ : Text) :
    (∀ o, Interprets l.surroundings ⟨source, 1, []⟩ (l.rootStore source) t₀ o ↔
      o = l.interpretRoot source t₀) ∧
    (∀ depth url, .fetch depth url ∈ (l.interpretRoot source t₀).events ↔
      (depth = 1 ∨ depth = 2) ∧ ∃ c s t, l.Visits source t₀ c s t ∧ c.depth = depth ∧
        ∃ i : Inclusion l.surroundings c s t,
          l.surroundings.resolve c.source i.target = .ok url) ∧
    ∀ c s t (i : Inclusion l.surroundings c s t), c.depth = 3 → Text.trim i.target ≠ [] →
      i.result.1 = i.machine ∧ fetched i.result.2 = [] ∧
        ∃ d, serious i.result.2 = [d] ∧ d.source = c.source ∧ d.line = some i.line ∧
          d.severity = .warning ∧
          d.message = (LoadError.recursionLimit 3 (Text.trim i.target)).message := by
  refine ⟨fun o => interprets_iff, fun depth url => ?_, fun c s t i hdepth htarget => ?_⟩
  · rw [interpretRoot_eq, mem_events_iff]
    simp only [fetch_mem_ownEvents_iff, Inclusion.outcome, asked?_follow_iff]
    constructor
    · rintro ⟨c, s, t, hvisits, rfl, i, hdepth, hurl⟩
      have hroot : 1 ≤ c.depth := hvisits.depth_le
      have hlevel : c.depth = 1 ∨ c.depth = 2 := by
        rw [maxDepth] at hdepth
        omega
      exact ⟨hlevel, c, s, t, hvisits, rfl, i, hurl⟩
    · rintro ⟨hlevel, c, s, t, hvisits, rfl, i, hurl⟩
      have hdepth : c.depth < maxDepth := by
        rw [maxDepth]
        omega
      exact ⟨c, s, t, hvisits, rfl, i, hdepth, hurl⟩
  · obtain ⟨hmachine, hfetched, hserious⟩ :=
      i.result_of_tooDeep (hdepth ▸ Nat.le_refl maxDepth) htarget
    refine ⟨hmachine, hfetched, _, hserious, rfl, rfl, rfl, ?_⟩
    rw [← hdepth]
    rfl

/-- The line `%include=file:/a`. -/
def circularLine : Text := "%include=file:/a".toList

/-- The URL `file:///a`. -/
def circularUrl : Url := ⟨Url.fileScheme, some {}, .rooted [['a']], none, none⟩

/-- Every resource includes `circularUrl`. -/
def circularLoader : Loader where
  surroundings :=
    { fetch := fun _ => .ok circularLine
      readUrl := UrlReader.ascii
      ambient := none
      workingDirectory := [] }
  policy := {}
  includeName := true

/-- The include that a resource consists of. -/
def circularInclusion (c : Context) (s : Store) :
    Inclusion circularLoader.surroundings c s circularLine where
  before := []
  raw := circularLine
  after := []
  lines_eq := rfl
  written := "file:/a".toList
  isOptional := false
  read_eq := rfl
  executed := by simp [Place.machine, Place.earlier, runLines]

/-- The load visits the resource at all three levels. -/
theorem recursion_bounded_circular :
    ∃ c s, circularLoader.Visits none circularLine c s circularLine ∧ c.depth = 3 ∧
      let i := circularInclusion c s
      Text.trim i.target ≠ [] ∧ i.result.1 = i.machine ∧ fetched i.result.2 = [] ∧
        ∃ d, serious i.result.2 = [d] ∧ d.line = some 1 ∧ d.severity = .warning := by
  let c₁ : Context := ⟨none, 1, []⟩
  let s₁ : Store := {}
  let s₂ := s₁.opened circularUrl
  let c₂ := c₁.below circularUrl s₁
  let c₃ := c₂.below circularUrl s₂
  have htarget₁ : (circularInclusion c₁ s₁).target = "file:/a".toList := rfl
  have htarget₂ : (circularInclusion c₂ s₂).target = "file:/a".toList := rfl
  have houtcome₁ : (circularInclusion c₁ s₁).outcome = .ok (circularUrl, circularLine) := by
    rw [Inclusion.outcome, htarget₁]
    exact follow_eq_ok_iff.2 ⟨by decide, rfl, rfl⟩
  have houtcome₂ : (circularInclusion c₂ s₂).outcome = .ok (circularUrl, circularLine) := by
    rw [Inclusion.outcome, htarget₂]
    exact follow_eq_ok_iff.2 ⟨by decide, rfl, rfl⟩
  have hvisits : circularLoader.Visits none circularLine c₃ (s₂.opened circularUrl) circularLine :=
    .included (.included .start _ houtcome₁) _ houtcome₂
  have htarget : Text.trim (circularInclusion c₃ (s₂.opened circularUrl)).target ≠ [] := by decide
  obtain ⟨hmachine, hfetched, d, hserious, -, hline, hseverity, -⟩ :=
    (recursion_bounded circularLoader none circularLine).2.2 c₃ (s₂.opened circularUrl)
      circularLine (circularInclusion c₃ (s₂.opened circularUrl)) rfl htarget
  exact ⟨c₃, _, hvisits, rfl, htarget, hmachine, hfetched, d, hserious, hline, hseverity⟩

end Loader

end PropertyConfig
