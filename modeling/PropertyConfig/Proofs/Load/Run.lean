import PropertyConfig.Load.Interpreter
import PropertyConfig.Proofs.Resource.Target
import PropertyConfig.Proofs.Store.Keys

/-!
# Runs over lines

What a line does to the store, and where it leaves the lines behind it relative to a block, is said
by `step_store` and `step_state`; line numbers and debug mode have no part in it
(`situation_runLines`). A run can be divided anywhere (`runLines_append`). What each line keeps of
the store, a run keeps (`runLines_invariant`), so the keys of the store stay distinct
(`distinct_runLines`). The lines alone say whether a block is open in the end (`isOpen_runLines`).
-/

namespace PropertyConfig

/-- Interprets what a resource includes that may include others `levels` deep. -/
def readerAt (w : Surroundings) : (levels : Nat) → Option Reader
  | 0 => none
  | levels + 1 => some (interpret w levels)

theorem interpret_eq_runText (w : Surroundings) (levels : Nat) :
    interpret w levels = runText w (readerAt w levels) := by
  cases levels <;> rfl

variable {w : Surroundings} {reader : Option Reader} {c : Context}

theorem runLines_cons (line : Nat) (m : Machine) (l : Line) (rest : List Line) :
    runLines w reader c line m (l :: rest) =
      ((runLines w reader c (line + 1) (step w reader c line m l).1 rest).1,
        (step w reader c line m l).2 ++
          (runLines w reader c (line + 1) (step w reader c line m l).1 rest).2) := rfl

theorem runLines_append (line : Nat) (m : Machine) (a b : List Line) :
    runLines w reader c line m (a ++ b) =
      ((runLines w reader c (line + a.length) (runLines w reader c line m a).1 b).1,
        (runLines w reader c line m a).2 ++
          (runLines w reader c (line + a.length) (runLines w reader c line m a).1 b).2) := by
  induction a generalizing line m with
  | nil => rfl
  | cons l a ih =>
    have hline : line + (l :: a).length = line + 1 + a.length := by
      rw [List.length_cons]
      omega
    rw [List.cons_append, runLines_cons, ih, runLines_cons, hline, List.append_assoc]

/-- What becomes known in a run becomes known at one of its lines. -/
theorem mem_runLines_iff {e : Event} (line : Nat) (m : Machine) (lines : List Line) :
    e ∈ (runLines w reader c line m lines).2 ↔
      ∃ before l after, lines = before ++ l :: after ∧
        e ∈ (step w reader c (line + before.length) (runLines w reader c line m before).1 l).2 := by
  induction lines generalizing line m with
  | nil => simp [runLines]
  | cons l lines ih =>
    rw [runLines_cons, List.mem_append, ih]
    constructor
    · rintro (h | ⟨before, l', after, rfl, h⟩)
      · exact ⟨[], l, lines, rfl, h⟩
      · refine ⟨l :: before, l', after, rfl, ?_⟩
        rwa [runLines_cons, List.length_cons, Nat.add_comm before.length, ← Nat.add_assoc]
    · rintro ⟨before, l', after, hlines, h⟩
      cases before with
      | nil =>
        obtain ⟨rfl, rfl⟩ := List.cons.inj hlines
        exact .inl h
      | cons d before =>
        obtain ⟨rfl, rfl⟩ := List.cons.inj hlines
        refine .inr ⟨before, l', after, rfl, ?_⟩
        rwa [runLines_cons, List.length_cons, Nat.add_comm before.length, ← Nat.add_assoc] at h

theorem mem_events_runText_iff {e : Event} {s : Store} {t : Text} :
    e ∈ (runText w reader c s t).events ↔
      (∃ before raw after, Text.lines t = before ++ raw :: after ∧
        e ∈ (step w reader c (before.length + 1)
          (runLines w reader c 1 { store := s } (before.map Line.read)).1 (Line.read raw)).2) ∨
      e ∈ endEvents c
        (runLines w reader c 1 { store := s } ((Text.lines t).map Line.read)).1 := by
  rw [runText, List.mem_append, mem_runLines_iff]
  refine or_congr_left ⟨?_, ?_⟩
  · rintro ⟨before', l, after', hlines, he⟩
    obtain ⟨before, rest, htext, rfl, hrest⟩ := List.map_eq_append_iff.1 hlines
    obtain ⟨raw, after, rfl, rfl, rfl⟩ := List.map_eq_cons_iff.1 hrest
    rw [List.length_map, Nat.add_comm] at he
    exact ⟨before, raw, after, htext, he⟩
  · rintro ⟨before, raw, after, htext, he⟩
    refine ⟨before.map Line.read, Line.read raw, after.map Line.read, by simp [htext], ?_⟩
    rwa [List.length_map, Nat.add_comm]

/-! ## What is included -/

theorem Surroundings.resolve_trim (w : Surroundings) (parent : Option Url) (target : Text) :
    w.resolve parent (Text.trim target) = w.resolve parent target :=
  Target.resolve_trim _ _ _ _

theorem Surroundings.resolve_of_blank {target : Text} (h : Text.trim target = [])
    (w : Surroundings) (parent : Option Url) : w.resolve parent target = .error .blankInclude :=
  Target.resolve_of_blank h _ _ _

/-- The store of the resource that a target names, if there is one to be had. -/
def included? (w : Surroundings) (reader : Option Reader) (c : Context) (s : Store)
    (target : Text) : Option Store :=
  match reader, w.resolve c.source target with
  | some read, .ok url =>
    match w.fetch url with
    | .ok t => some (readIncluded read c s url t).1
    | .error _ => none
  | _, _ => none

/-- What is included does not depend on what is noted. -/
theorem include?_fst (line : Nat) (m : Machine) (target : Text) (isOptional : Bool) :
    (include? w reader c line m target isOptional).1 = included? w reader c m.store target := by
  unfold include? included?
  simp only [Surroundings.resolve_trim]
  by_cases hblank : Text.trim target = []
  · simp only [hblank, if_true, Surroundings.resolve_of_blank hblank]
  · simp only [hblank, if_false]
    split
    · rfl
    · rename_i h
      simp [h]
    · rename_i h
      simp only [h, includeUrl]
      split <;> simp_all

/-! ## What a line does -/

/-- Whether the lines behind a condition are executed. They are behind a faulty one. -/
def conditionHolds (stores : List Store) : Except ConditionError Condition → Bool
  | .error _ => true
  | .ok asked => asked.holds (lookupIn stores asked.key)

/-- Where the lines behind a line stand; `stores` answer conditions. -/
def BlockState.behind (b : BlockState) (stores : List Store) : Line → BlockState
  | .condition test =>
    match b with
    | .outside => if conditionHolds stores test then .taken else .skipped
    | b => b
  | .otherwise _ =>
    match b with
    | .outside => .outside
    | .taken => .skipped
    | .skipped => .taken
  | .endIf _ => .outside
  | _ => b

/-- The store after a line was executed. -/
def executed (w : Surroundings) (reader : Option Reader) (c : Context) (s : Store) : Line → Store
  | .property key value => s.set key value
  | .reserved key value => s.set key.key value
  | .inclusion target _ =>
    (included? w reader c s (expandIn (c.scope w s) target)).elim s fun included =>
      (s.merge included false).store
  | _ => s

theorem step_state (line : Nat) (m : Machine) (l : Line) :
    (step w reader c line m l).1.state = m.state.behind (c.scope w m.store) l := by
  unfold step
  cases l with
  | condition test =>
    cases hm : m.state <;> cases test <;> simp only [stepCondition, hm, BlockState.behind] <;> rfl
  | otherwise trailing =>
    cases hm : m.state <;> simp only [stepOtherwise, hm, BlockState.behind]
  | endIf trailing =>
    cases hm : m.state <;> simp only [stepEndIf, hm, BlockState.behind]
  | log message =>
    simp only [stepPlain, stepLog, BlockState.behind]
    split
    · rfl
    · split <;> rfl
  | _ =>
    simp only [stepPlain, stepInclude, stepDebugMode, BlockState.behind]
    try split
    all_goals rfl

theorem step_store (line : Nat) (m : Machine) (l : Line) :
    (step w reader c line m l).1.store =
      if m.state = .skipped then m.store else executed w reader c m.store l := by
  unfold step
  cases l with
  | condition test =>
    cases hm : m.state <;> cases test <;> simp [stepCondition, hm, executed]
  | otherwise trailing =>
    cases hm : m.state <;> simp [stepOtherwise, hm, executed]
  | endIf trailing =>
    cases hm : m.state <;> simp [stepEndIf, hm, executed]
  | inclusion target isOptional =>
    simp only [stepPlain, stepInclude, include?_fst, executed]
    split <;> rfl
  | log message =>
    simp only [stepPlain, stepLog, executed]
    split
    · rfl
    · split <;> rfl
  | _ =>
    simp only [stepPlain, stepDebugMode, executed]
    split <;> rfl

/-! ## What a run does -/

/-- What holds of the store before some lines, and is kept by each of them that is executed, holds
of the store behind them. -/
theorem runLines_invariant {P : Store → Prop} {line : Nat} {m : Machine} {lines : List Line}
    (hkeep : ∀ before l after, lines = before ++ l :: after →
      let m' := (runLines w reader c line m before).1
      m'.state ≠ .skipped → P m'.store → P (executed w reader c m'.store l))
    (h : P m.store) : P (runLines w reader c line m lines).1.store := by
  induction lines using List.reverseRecOn with
  | nil => exact h
  | append_singleton lines l ih =>
    have hlines := ih fun before l' after heq => hkeep before l' (after ++ [l]) (by simp [heq])
    rw [runLines_append]
    show P (step w reader c _ (runLines w reader c line m lines).1 l).1.store
    rw [step_store]
    split
    · exact hlines
    · exact hkeep lines l [] rfl ‹_› hlines

/-- All of a machine that has influence on stores. -/
def Machine.situation (m : Machine) : Store × BlockState := (m.store, m.state)

theorem situation_step {m m' : Machine} (h : m.situation = m'.situation) (line line' : Nat)
    (l : Line) :
    (step w reader c line m l).1.situation = (step w reader c line' m' l).1.situation := by
  obtain ⟨hstore, hstate⟩ : m.store = m'.store ∧ m.state = m'.state := by
    simpa [Machine.situation] using h
  simp only [Machine.situation, step_store, step_state, hstore, hstate]

theorem situation_runLines {m m' : Machine} (h : m.situation = m'.situation) (line line' : Nat)
    (lines : List Line) :
    (runLines w reader c line m lines).1.situation =
      (runLines w reader c line' m' lines).1.situation := by
  induction lines generalizing line line' m m' with
  | nil => exact h
  | cons l lines ih => exact ih (situation_step h line line' l) (line + 1) (line' + 1)

theorem policy_executed (s : Store) (l : Line) : (executed w reader c s l).policy = s.policy := by
  cases l with
  | property key value => exact s.policy_apply _
  | reserved key value => exact s.policy_apply _
  | inclusion target isOptional =>
    simp only [executed]
    cases included? w reader c s (expandIn (c.scope w s) target) with
    | none => rfl
    | some child => exact s.policy_run _
  | _ => rfl

theorem policy_runLines (line : Nat) (m : Machine) (lines : List Line) :
    (runLines w reader c line m lines).1.store.policy = m.store.policy :=
  runLines_invariant (P := fun s => s.policy = m.store.policy)
    (fun _ l _ _ _ hs => (policy_executed _ l).trans hs) rfl

theorem distinct_executed {s : Store} (h : s.Distinct) (l : Line) :
    (executed w reader c s l).Distinct := by
  cases l with
  | property key value => exact Store.distinct_apply h _
  | reserved key value => exact Store.distinct_apply h _
  | inclusion target isOptional =>
    simp only [executed]
    cases included? w reader c s (expandIn (c.scope w s) target) with
    | none => exact h
    | some child => exact Store.distinct_run h _
  | _ => exact h

theorem distinct_runLines {m : Machine} (h : m.store.Distinct) (line : Nat) (lines : List Line) :
    (runLines w reader c line m lines).1.store.Distinct :=
  runLines_invariant (fun _ l _ _ _ hs => distinct_executed hs l) h

/-! ## Blocks -/

def BlockState.isOpen (b : BlockState) : Bool := b != .outside

/-- Whether a block is open behind some lines, given whether one is open before them. -/
def leavesOpen : (isOpen : Bool) → List Line → Bool
  | isOpen, [] => isOpen
  | _, .condition _ :: rest => leavesOpen true rest
  | _, .endIf _ :: rest => leavesOpen false rest
  | isOpen, _ :: rest => leavesOpen isOpen rest

theorem leavesOpen_behind (b : BlockState) (stores : List Store) (l : Line) (rest : List Line) :
    leavesOpen (b.behind stores l).isOpen rest = leavesOpen b.isOpen (l :: rest) := by
  cases l with
  | condition test =>
    have hopen : (b.behind stores (.condition test)).isOpen = true := by
      cases b
      · simp only [BlockState.behind]
        split <;> rfl
      all_goals rfl
    rw [hopen, leavesOpen]
  | otherwise trailing => cases b <;> rfl
  | _ => rfl

theorem isOpen_runLines (line : Nat) (m : Machine) (lines : List Line) :
    (runLines w reader c line m lines).1.state.isOpen = leavesOpen m.state.isOpen lines := by
  induction lines generalizing line m with
  | nil => rfl
  | cons l lines ih =>
    rw [← leavesOpen_behind m.state (c.scope w m.store), ← step_state line]
    exact ih (line + 1) _

end PropertyConfig
