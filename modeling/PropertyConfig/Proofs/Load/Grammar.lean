import Mathlib.Computability.RegularExpressions
import PropertyConfig.Proofs.Load.Blocks

/-!
# The grammar of blocks

Of all lines only those that make up blocks count: `%if`, well-formed or not, `%else` and `%endif`.
A text is free of structural errors of its own exactly if these, in their order, are blocks one
after the other, each of them with any number of dividers (`wellPaired_iff_grammar`). A machine
follows them with nothing but whether a block is open (`BlockMark.behind?`): it refuses a line
exactly where one of the errors is noted (`wellPaired_step_iff`).
-/

namespace PropertyConfig

/-- The kinds of lines that make up blocks. -/
inductive BlockMark
  | opening
  | divider
  | closing
deriving DecidableEq, Repr

/-- A condition opens a block also if it is faulty. -/
def Line.mark? : Line → Option BlockMark
  | .condition _ => some .opening
  | .otherwise _ => some .divider
  | .endIf _ => some .closing
  | _ => none

/-- The lines of a text that make up blocks. -/
def blockMarks (t : Text) : List BlockMark :=
  (Text.lines t).filterMap fun raw => (Line.read raw).mark?

open RegularExpression in
/-- A block: an opening, dividers, and a closing. -/
def blockPattern : RegularExpression BlockMark :=
  char .opening * (char .divider).star * char .closing

/-- Whether a notice is about a line out of place, or about one that is missing. -/
def Notice.isStructural : Notice → Bool
  | .nestedIf | .otherwiseOutside | .endIfOutside | .missingEndIf => true
  | _ => false

/-- No structural error is noted. -/
def WellPaired (events : List Event) : Prop := ∀ d, .note d ∈ events → ¬ d.notice.isStructural

/-! ## Pairing -/

/-- Whether a block is open behind a line, or nothing if the line is out of place. -/
def BlockMark.behind? (isOpen : Bool) : BlockMark → Option Bool
  | .opening => if isOpen then none else some true
  | .divider => if isOpen then some true else none
  | .closing => if isOpen then some false else none

/-- Whether no line is out of place and no block stays open. -/
def pairsUp : (isOpen : Bool) → List BlockMark → Bool
  | isOpen, [] => !isOpen
  | isOpen, k :: rest => (k.behind? isOpen).any (pairsUp · rest)

theorem pairsUp_block (n : Nat) (rest : List BlockMark) :
    pairsUp true (List.replicate n .divider ++ .closing :: rest) = pairsUp false rest := by
  induction n with
  | zero => rfl
  | succ n ih => exact ih

theorem mem_blockPattern_iff {marks : List BlockMark} :
    marks ∈ blockPattern.matches' ↔
      ∃ n, marks = .opening :: (List.replicate n .divider ++ [.closing]) := by
  have hdividers (dividers : List BlockMark) :
      dividers ∈ (RegularExpression.char BlockMark.divider).star.matches' ↔
        ∃ n, dividers = List.replicate n .divider := by
    rw [RegularExpression.matches'_star, Language.mem_kstar]
    constructor
    · rintro ⟨parts, rfl, hparts⟩
      refine ⟨parts.length, ?_⟩
      rw [List.eq_replicate_of_mem hparts, List.flatten_replicate_singleton, List.length_replicate]
    · rintro ⟨n, rfl⟩
      exact ⟨List.replicate n [.divider], by simp, fun part hpart => List.eq_of_mem_replicate hpart⟩
  rw [blockPattern, RegularExpression.matches'_mul, RegularExpression.matches'_mul]
  simp only [Language.mem_mul, hdividers]
  constructor
  · rintro ⟨_, ⟨_, rfl, _, ⟨n, rfl⟩, rfl⟩, _, rfl, rfl⟩
    exact ⟨n, by simp⟩
  · rintro ⟨n, rfl⟩
    exact ⟨_, ⟨_, rfl, _, ⟨n, rfl⟩, rfl⟩, _, rfl, by simp⟩

/-- What pairs up is a number of blocks, behind the rest of the one that is open. -/
theorem exists_of_pairsUp (marks : List BlockMark) :
    (pairsUp false marks → marks ∈ blockPattern.star.matches') ∧
      (pairsUp true marks → ∃ n rest, marks = List.replicate n .divider ++ .closing :: rest ∧
        rest ∈ blockPattern.star.matches') := by
  induction marks with
  | nil => exact ⟨fun _ => Language.nil_mem_kstar _, fun h => by simp [pairsUp] at h⟩
  | cons k rest ih =>
    constructor
    · intro h
      cases k with
      | opening =>
        obtain ⟨n, rest', rfl, hrest⟩ := ih.2 h
        rw [RegularExpression.matches'_star, Language.mem_kstar] at hrest ⊢
        obtain ⟨blocks, rfl, hblocks⟩ := hrest
        refine ⟨(.opening :: (List.replicate n .divider ++ [.closing])) :: blocks, by simp, ?_⟩
        exact List.forall_mem_cons.2 ⟨mem_blockPattern_iff.2 ⟨n, rfl⟩, hblocks⟩
      | divider => cases h
      | closing => cases h
    · intro h
      cases k with
      | opening => cases h
      | divider =>
        obtain ⟨n, rest', rfl, hrest⟩ := ih.2 h
        exact ⟨n + 1, rest', rfl, hrest⟩
      | closing => exact ⟨0, rest, rfl, ih.1 h⟩

theorem pairsUp_iff {marks : List BlockMark} :
    pairsUp false marks ↔ marks ∈ blockPattern.star.matches' := by
  refine ⟨(exists_of_pairsUp marks).1, ?_⟩
  rw [RegularExpression.matches'_star, Language.mem_kstar]
  rintro ⟨blocks, rfl, hblocks⟩
  induction blocks with
  | nil => rfl
  | cons block blocks ih =>
    obtain ⟨hblock, hothers⟩ := List.forall_mem_cons.1 hblocks
    obtain ⟨n, rfl⟩ := mem_blockPattern_iff.1 hblock
    have hrest := ih hothers
    rw [← pairsUp_block n] at hrest
    simpa [pairsUp, BlockMark.behind?] using hrest

/-! ## Lines -/

theorem BlocksFine.wellPaired {events : List Event} (h : BlocksFine events) :
    WellPaired events := by
  intro d hd hstructural
  refine h d hd ?_
  cases hn : d.notice <;> rw [hn] at hstructural <;> first | rfl | cases hstructural

theorem wellPaired_append_iff {a b : List Event} :
    WellPaired (a ++ b) ↔ WellPaired a ∧ WellPaired b := by
  simp only [WellPaired, List.mem_append, or_imp, forall_and]

theorem wellPaired_noteAt_iff {c : Context} {line : Nat} {n : Notice} :
    WellPaired [c.noteAt line n] ↔ ¬ n.isStructural := by
  simp [WellPaired, Context.noteAt]

theorem WellPaired.nil : WellPaired [] := BlocksFine.nil.wellPaired

variable {w : Surroundings} {c : Context} {read : Reader}

theorem wellPaired_noteIf {n : Notice} (hn : n.isStructural = false) (b : Bool) (line : Nat) :
    WellPaired (if b then [c.noteAt line n] else []) := by
  cases b with
  | true => exact wellPaired_noteAt_iff.2 (by simp [hn])
  | false => exact .nil

/-- A line notes a structural error exactly if it is out of place. -/
theorem wellPaired_step_iff (line : Nat) (m : Machine) (l : Line) :
    WellPaired (step w (c.allowed read.silenced) c line m l).2 ↔
      ∀ k, l.mark? = some k → (k.behind? m.state.isOpen).isSome := by
  cases l with
  | condition test =>
    simp only [step, Line.mark?, Option.some.injEq, forall_eq']
    cases hm : m.state with
    | outside =>
      refine iff_of_true ?_ rfl
      cases test with
      | error e =>
        simp only [stepCondition, hm]
        exact wellPaired_noteAt_iff.2 Bool.false_ne_true
      | ok condition =>
        simp only [stepCondition, hm]
        exact wellPaired_noteIf rfl _ line
    | taken | skipped =>
      refine iff_of_false ?_ Bool.false_ne_true
      simp [stepCondition, hm, wellPaired_noteAt_iff, Notice.isStructural]
  | otherwise trailing =>
    simp only [step, stepOtherwise, Line.mark?, Option.some.injEq, forall_eq']
    cases hm : m.state with
    | outside =>
      refine iff_of_false ?_ Bool.false_ne_true
      simp [wellPaired_noteAt_iff, Notice.isStructural]
    | taken | skipped => exact iff_of_true (wellPaired_noteIf rfl _ line) rfl
  | endIf trailing =>
    simp only [step, stepEndIf, Line.mark?, Option.some.injEq, forall_eq']
    cases hm : m.state with
    | outside =>
      refine iff_of_false ?_ Bool.false_ne_true
      simp [wellPaired_noteAt_iff, Notice.isStructural]
    | taken | skipped => exact iff_of_true (wellPaired_noteIf rfl _ line) rfl
  | invalidIf written =>
    exact iff_of_true (wellPaired_noteAt_iff.2 Bool.false_ne_true) (by simp [Line.mark?])
  | _ =>
    refine iff_of_true ?_ (by simp [Line.mark?])
    simp only [step]
    split
    · exact .nil
    · exact (notesAt_stepPlain line m _).blocksFine.wellPaired

/-- Whether a block is open behind a line that is in place. -/
theorem isOpen_step {reader : Option Reader} (line : Nat) (m : Machine) {l : Line} {k : BlockMark}
    (hl : l.mark? = some k) {isOpen : Bool} (hk : k.behind? m.state.isOpen = some isOpen) :
    (step w reader c line m l).1.state.isOpen = isOpen := by
  have hrest := leavesOpen_behind m.state (c.scope w m.store) l []
  rw [step_state]
  rw [leavesOpen] at hrest
  rw [hrest]
  cases l <;> cases hl <;> cases hm : m.state <;> rw [hm] at hk <;> cases hk <;> rfl

theorem state_step_of_mark?_eq_none {reader : Option Reader} (line : Nat) (m : Machine) {l : Line}
    (hl : l.mark? = none) : (step w reader c line m l).1.state = m.state := by
  rw [step_state]
  cases l <;> first | rfl | cases hl

/-! ## Texts -/

theorem wellPaired_endEvents_iff (m : Machine) :
    WellPaired (endEvents c m) ↔ m.state.isOpen = false := by
  cases hm : m.state <;> simp [endEvents, hm, WellPaired, BlockState.isOpen, Notice.isStructural]

/-- What a run notes is free of structural errors, up to the end of the text, exactly if its lines
pair up. -/
theorem wellPaired_runLines_iff (line : Nat) (m : Machine) (lines : List Line) :
    WellPaired ((runLines w (c.allowed read.silenced) c line m lines).2 ++
        endEvents c (runLines w (c.allowed read.silenced) c line m lines).1) ↔
      pairsUp m.state.isOpen (lines.filterMap Line.mark?) := by
  induction lines generalizing line m with
  | nil => simp [runLines, wellPaired_endEvents_iff, pairsUp]
  | cons l lines ih =>
    have ih := ih (line + 1) (step w (c.allowed read.silenced) c line m l).1
    simp only [runLines_cons, List.append_assoc] at ih ⊢
    rw [wellPaired_append_iff, ih, wellPaired_step_iff]
    cases hl : l.mark? with
    | none => simp [hl, state_step_of_mark?_eq_none line m hl]
    | some k =>
      rw [List.filterMap_cons_some hl, pairsUp]
      cases hk : k.behind? m.state.isOpen with
      | none => simp [hk]
      | some isOpen => simp [hk, isOpen_step line m hl hk]

/-- **Structural errors are about the grammar of blocks.** Interpreting a text notes none of its own
exactly if those of its lines that make up blocks are blocks one after the other, each with any
number of dividers. Whatever else is noted, the texts that are included note; neither this nor what
they do to the store has a part in it. -/
theorem wellPaired_iff_grammar (w : Surroundings) (c : Context) (s : Store) (t : Text) :
    (WellPaired (ownEvents w c s t) ↔ blockMarks t ∈ blockPattern.star.matches') ∧
      ∀ d, .note d ∈ (interpretIn w c s t).events ↔
        .note d ∈ ownEvents w c s t ∨
          ∃ (i : Inclusion w c s t) (url : Url) (child : Text), i.outcome = .ok (url, child) ∧
            .note d ∈ (interpretIn w (c.below url i.machine.store) (i.machine.store.opened url)
              child).events := by
  refine ⟨?_, fun d => mem_events_interpretIn_iff⟩
  rw [← pairsUp_iff, blockMarks, ← Function.comp_def, ← List.filterMap_map]
  exact wellPaired_runLines_iff 1 { store := s } ((Text.lines t).map Line.read)

end PropertyConfig
