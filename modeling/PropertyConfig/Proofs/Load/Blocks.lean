import PropertyConfig.Proofs.Load.Notes
import PropertyConfig.Url.Parse

/-!
# Blocks

Interpreting goes from line to line, and only the state of the machine tells whether a line stands
in a block that is skipped. A program divides lines into plain ones and blocks. Evaluating it needs
no state: plain lines are executed in order, and of a block the branch that its condition chooses
(`Program.eval`). Interpreting the lines of a program comes to the same
(`Program.interpretIn_eq_eval`).
-/

namespace PropertyConfig

/-! ## Programs -/

/-- Whether a line has no part in blocks. -/
def Line.isPlain : Line → Bool
  | .invalidIf _ | .condition _ | .otherwise _ | .endIf _ => false
  | _ => true

/-- A written line that has no part in blocks. -/
structure PlainLine where
  raw : Text
  isPlain : (Line.read raw).isPlain

/-- A text that is read as a given line. -/
structure Written (l : Line) where
  raw : Text
  read_eq : Line.read raw = l

/-- The lines of a block: `%if` with a condition, plain lines, perhaps `%else` and plain lines, and
`%endif`. -/
structure Block where
  condition : Condition
  opening : Written (.condition (.ok condition))
  taken : List PlainLine
  /-- The line `%else` and the lines behind it. -/
  alternative : Option (Written (.otherwise false) × List PlainLine)
  closing : Written (.endIf false)

inductive Item
  | line (l : PlainLine)
  | block (b : Block)

abbrev Program := List Item

namespace Block

/-- The lines that stand in for the others where the condition does not hold. -/
def skipped (b : Block) : List PlainLine := b.alternative.elim [] Prod.snd

/-- The line `%else` and the lines behind it, as they are written. -/
def alternativeLines (b : Block) : List Text :=
  b.alternative.elim [] fun (divider, body) => divider.raw :: body.map PlainLine.raw

def lines (b : Block) : List Text :=
  b.opening.raw :: (b.taken.map PlainLine.raw ++ (b.alternativeLines ++ [b.closing.raw]))

end Block

def Item.lines : Item → List Text
  | .line l => [l.raw]
  | .block b => b.lines

def Program.lines (program : Program) : List Text := program.flatMap Item.lines

/-! ## Evaluation -/

section

variable (w : Surroundings) (reader : Option Reader) (c : Context)

/-- The value of a key: in the store itself, then in those of the including resources, the nearest
first, then in the ambient one. -/
def valueAt (s : Store) (key : Text) : Option Text :=
  (s.get? key).or ((c.outer.findSome? (·.get? key)).or (w.ambient.bind (·.get? key)))

/-- Executes plain lines, the first of which has the number `line`. -/
def evalLines : (line : Nat) → Machine → List PlainLine → Machine × List Event
  | _, m, [] => (m, [])
  | line, m, l :: rest =>
    let (next, events) := stepPlain w reader c line m (Line.read l.raw)
    let (last, more) := evalLines (line + 1) next rest
    (last, events ++ more)

/-- Tests the condition once, and executes the branch that it chooses. -/
def Block.eval (line : Nat) (m : Machine) (b : Block) : Machine × List Event :=
  let result := b.condition.holds (valueAt w c m.store b.condition.key)
  let (last, events) :=
    if result then evalLines w reader c (line + 1) m b.taken
    else evalLines w reader c (line + 1 + b.taken.length + 1) m b.skipped
  (last, debugNote c line m (.tested b.condition.key result) ++ events)

def Item.eval (line : Nat) (m : Machine) : Item → Machine × List Event
  | .line l => stepPlain w reader c line m (Line.read l.raw)
  | .block b => b.eval w reader c line m

def Program.eval : (line : Nat) → Machine → Program → Machine × List Event
  | _, m, [] => (m, [])
  | line, m, item :: rest =>
    let (next, events) := item.eval w reader c line m
    let (last, more) := Program.eval (line + item.lines.length) next rest
    (last, events ++ more)

end

/-! ## Plain lines -/

/-- The machine in another state. -/
def Machine.within (m : Machine) (b : BlockState) : Machine := { m with state := b }

@[simp]
theorem Machine.state_within (m : Machine) (b : BlockState) : (m.within b).state = b := rfl

@[simp]
theorem Machine.within_within (m : Machine) (b b' : BlockState) :
    (m.within b).within b' = m.within b' := rfl

theorem Machine.within_of_state {m : Machine} {b : BlockState} (h : m.state = b) :
    m.within b = m := by
  rw [← h]
  rfl

variable {w : Surroundings} {reader : Option Reader} {c : Context}

theorem lookupIn_scope (s : Store) (key : Text) :
    lookupIn (c.scope w s) key = valueAt w c s key := by
  rw [lookupIn, Context.scope, valueAt, List.findSome?_append, List.findSome?_cons]
  cases s.get? key <;> cases w.ambient <;> simp

theorem PlainLine.step_eq (l : PlainLine) (line : Nat) (m : Machine) :
    step w reader c line m (Line.read l.raw) =
      if m.state = .skipped then (m, []) else stepPlain w reader c line m (Line.read l.raw) := by
  have hplain := l.isPlain
  cases hread : Line.read l.raw with
  | invalidIf _ | condition _ | otherwise _ | endIf _ =>
    rw [hread] at hplain
    cases hplain
  | _ => rfl

/-- A plain line does not ask in which state it is executed, and leaves it as it is. -/
theorem stepPlain_within (l : Line) (line : Nat) (m : Machine) (b : BlockState) :
    stepPlain w reader c line (m.within b) l =
      ((stepPlain w reader c line m l).1.within b, (stepPlain w reader c line m l).2) := by
  cases l with
  | log message =>
    by_cases hlog : m.store.policy.logMessages <;> simp [stepPlain, stepLog, Machine.within, hlog]
  | _ => rfl

theorem evalLines_within (line : Nat) (m : Machine) (ls : List PlainLine) (b : BlockState) :
    evalLines w reader c line (m.within b) ls =
      ((evalLines w reader c line m ls).1.within b, (evalLines w reader c line m ls).2) := by
  induction ls generalizing line m with
  | nil => rfl
  | cons l rest ih => simp only [evalLines, stepPlain_within, ih]

theorem state_stepPlain (l : Line) (line : Nat) (m : Machine) :
    (stepPlain w reader c line m l).1.state = m.state :=
  congrArg (fun r => r.1.state) (stepPlain_within l line m m.state)

theorem state_evalLines (line : Nat) (m : Machine) (ls : List PlainLine) :
    (evalLines w reader c line m ls).1.state = m.state :=
  congrArg (fun r => r.1.state) (evalLines_within line m ls m.state)

/-- Plain lines that are not skipped are executed in order. -/
theorem runLines_plain {m : Machine} (hstate : m.state ≠ .skipped) (line : Nat)
    (ls : List PlainLine) :
    runLines w reader c line m ((ls.map PlainLine.raw).map Line.read) =
      evalLines w reader c line m ls := by
  induction ls generalizing line m with
  | nil => rfl
  | cons l rest ih =>
    have hnext : (stepPlain w reader c line m (Line.read l.raw)).1.state ≠ .skipped := by
      rwa [state_stepPlain]
    rw [List.map_cons, List.map_cons, runLines_cons, l.step_eq, if_neg hstate, ih hnext]
    rfl

theorem runLines_plain_skipped {m : Machine} (hstate : m.state = .skipped) (line : Nat)
    (ls : List PlainLine) :
    runLines w reader c line m ((ls.map PlainLine.raw).map Line.read) = (m, []) := by
  induction ls generalizing line with
  | nil => rfl
  | cons l rest ih =>
    rw [List.map_cons, List.map_cons, runLines_cons, l.step_eq, if_pos hstate, ih]
    rfl

/-! ## Blocks -/

namespace Block

variable (b : Block)

/-- The line `%if` opens the branch that the condition chooses. -/
theorem step_opening {m : Machine} (hstate : m.state = .outside) (line : Nat) :
    step w reader c line m (Line.read b.opening.raw) =
      let result := b.condition.holds (valueAt w c m.store b.condition.key)
      (m.within (if result then .taken else .skipped),
        debugNote c line m (.tested b.condition.key result)) := by
  rw [b.opening.read_eq, ← lookupIn_scope]
  simp only [step, stepCondition, hstate]
  rfl

theorem runLines_closing {m : Machine} (hstate : m.state ≠ .outside) (line : Nat) :
    runLines w reader c line m [Line.read b.closing.raw] = (m.within .outside, []) := by
  rw [b.closing.read_eq, runLines_cons, step, stepEndIf]
  cases h : m.state with
  | outside => exact absurd h hstate
  | taken => rfl
  | skipped => rfl

/-- Behind the branch that is taken nothing is executed. -/
theorem runLines_rest_of_taken {m : Machine} (hstate : m.state = .taken) (line : Nat) :
    runLines w reader c line m (b.alternativeLines.map Line.read ++ [Line.read b.closing.raw]) =
      (m.within .outside, []) := by
  rw [alternativeLines]
  cases b.alternative with
  | none => exact b.runLines_closing (by simp [hstate]) line
  | some branch =>
    obtain ⟨divider, body⟩ := branch
    have hdivider : step w reader c line m (Line.read divider.raw) = (m.within .skipped, []) := by
      rw [divider.read_eq, step, stepOtherwise, hstate]
      rfl
    rw [Option.elim_some, List.map_cons, List.cons_append, runLines_cons, hdivider,
      runLines_append, runLines_plain_skipped rfl, b.runLines_closing (by simp)]
    rfl

/-- Behind the branch that is skipped the lines behind `%else` are executed. -/
theorem runLines_rest_of_skipped {m : Machine} (hstate : m.state = .skipped) (line : Nat) :
    runLines w reader c line m (b.alternativeLines.map Line.read ++ [Line.read b.closing.raw]) =
      ((evalLines w reader c (line + 1) m b.skipped).1.within .outside,
        (evalLines w reader c (line + 1) m b.skipped).2) := by
  rw [alternativeLines, skipped]
  cases b.alternative with
  | none => exact b.runLines_closing (by simp [hstate]) line
  | some branch =>
    obtain ⟨divider, body⟩ := branch
    have hdivider : step w reader c line m (Line.read divider.raw) = (m.within .taken, []) := by
      rw [divider.read_eq, step, stepOtherwise, hstate]
      rfl
    rw [Option.elim_some, List.map_cons, List.cons_append, runLines_cons, hdivider,
      runLines_append, runLines_plain (by simp), evalLines_within, b.runLines_closing (by simp)]
    simp

/-- A block is run as it is evaluated. -/
theorem runLines_lines {m : Machine} (hstate : m.state = .outside) (line : Nat) :
    runLines w reader c line m (b.lines.map Line.read) = b.eval w reader c line m := by
  have hlines : b.lines.map Line.read =
      Line.read b.opening.raw :: ((b.taken.map PlainLine.raw).map Line.read ++
        (b.alternativeLines.map Line.read ++ [Line.read b.closing.raw])) := by
    rw [lines, List.map_cons, List.map_append, List.map_append, List.map_singleton]
  rw [hlines, runLines_cons, b.step_opening hstate, runLines_append, eval]
  cases b.condition.holds (valueAt w c m.store b.condition.key) with
  | true =>
    have hleft : (evalLines w reader c (line + 1) m b.taken).1.within .outside =
        (evalLines w reader c (line + 1) m b.taken).1 :=
      Machine.within_of_state (by rw [state_evalLines, hstate])
    simp only [if_true]
    rw [runLines_plain (by simp), evalLines_within, b.runLines_rest_of_taken (by simp)]
    simp [hleft]
  | false =>
    simp only [Bool.false_eq_true, if_false]
    rw [runLines_plain_skipped (by simp), b.runLines_rest_of_skipped (by simp), evalLines_within]
    have hleft : ∀ line', (evalLines w reader c line' m b.skipped).1.within .outside =
        (evalLines w reader c line' m b.skipped).1 :=
      fun line' => Machine.within_of_state (by rw [state_evalLines, hstate])
    simp [hleft]

theorem state_eval (line : Nat) (m : Machine) :
    (b.eval w reader c line m).1.state = m.state := by
  rw [eval]
  cases b.condition.holds (valueAt w c m.store b.condition.key) with
  | true => exact state_evalLines (line + 1) m b.taken
  | false => exact state_evalLines _ m b.skipped

end Block

/-! ## Programs are run as they are evaluated -/

theorem Item.runLines_lines (item : Item) {m : Machine} (hstate : m.state = .outside)
    (line : Nat) :
    runLines w reader c line m (item.lines.map Line.read) = item.eval w reader c line m := by
  cases item with
  | line l =>
    have hexecuted : m.state ≠ .skipped := by simp [hstate]
    rw [Item.lines, List.map_singleton, runLines_cons, l.step_eq, if_neg hexecuted, runLines,
      List.append_nil]
    rfl
  | block b => exact b.runLines_lines hstate line

theorem Item.state_eval (item : Item) (line : Nat) (m : Machine) :
    (item.eval w reader c line m).1.state = m.state := by
  cases item with
  | line l => exact state_stepPlain _ line m
  | block b => exact b.state_eval line m

theorem Program.runLines_lines (program : Program) {m : Machine} (hstate : m.state = .outside)
    (line : Nat) :
    runLines w reader c line m (program.lines.map Line.read) =
      program.eval w reader c line m := by
  induction program generalizing line m with
  | nil => rfl
  | cons item rest ih =>
    have hnext : (item.eval w reader c line m).1.state = .outside := by
      rw [item.state_eval, hstate]
    have hlines : Program.lines (item :: rest) = item.lines ++ Program.lines rest :=
      List.flatMap_cons
    rw [hlines, List.map_append, runLines_append, item.runLines_lines hstate, List.length_map,
      ih hnext, Program.eval]

theorem Program.state_eval (program : Program) (line : Nat) (m : Machine) :
    (program.eval w reader c line m).1.state = m.state := by
  induction program generalizing line m with
  | nil => rfl
  | cons item rest ih => exact (ih _ _).trans (item.state_eval line m)

/-! ## What is wrong with blocks -/

/-- Nothing is noted about blocks. -/
def BlocksFine (events : List Event) : Prop := ∀ d, .note d ∈ events → ¬ d.notice.isAboutBlocks

namespace BlocksFine

theorem nil : BlocksFine [] := by
  intro d h
  cases h

theorem append {a b : List Event} (ha : BlocksFine a) (hb : BlocksFine b) : BlocksFine (a ++ b) :=
  fun d h => (List.mem_append.1 h).elim (ha d) (hb d)

end BlocksFine

theorem NotesAt.blocksFine {c : Context} {line : Nat} {events : List Event}
    (h : NotesAt c line (·.isAboutBlocks = false) events) : BlocksFine events := by
  intro d hd
  simp [(h d hd).2.2]

variable {read : Reader}

theorem blocksFine_evalLines (line : Nat) (m : Machine) (ls : List PlainLine) :
    BlocksFine (evalLines w (c.allowed read.silenced) c line m ls).2 := by
  induction ls generalizing line m with
  | nil => exact .nil
  | cons l rest ih => exact .append (notesAt_stepPlain line m _).blocksFine (ih _ _)

theorem blocksFine_item (item : Item) (line : Nat) (m : Machine) :
    BlocksFine (item.eval w (c.allowed read.silenced) c line m).2 := by
  cases item with
  | line l => exact (notesAt_stepPlain line m _).blocksFine
  | block b =>
    rw [Item.eval, Block.eval]
    refine .append (NotesAt.noteIf (by rfl) m.debugMode).blocksFine ?_
    split
    · exact blocksFine_evalLines _ m b.taken
    · exact blocksFine_evalLines _ m b.skipped

theorem blocksFine_program (program : Program) (line : Nat) (m : Machine) :
    BlocksFine (program.eval w (c.allowed read.silenced) c line m).2 := by
  induction program generalizing line m with
  | nil => exact .nil
  | cons item rest ih => exact .append (blocksFine_item item line m) (ih _ _)

/-! ## The main result -/

theorem runText_program (program : Program) {t : Text} (hlines : Text.lines t = program.lines)
    (s : Store) :
    runText w reader c s t =
      ⟨(program.eval w reader c 1 { store := s }).1.store, .outside,
        (program.eval w reader c 1 { store := s }).2⟩ := by
  have hstate : (program.eval w reader c 1 { store := s }).1.state = .outside :=
    program.state_eval 1 { store := s }
  have hrun : runLines w reader c 1 { store := s } (program.lines.map Line.read) =
      program.eval w reader c 1 { store := s } := program.runLines_lines rfl 1
  simp [runText, hlines, hrun, endEvents, hstate]

/-- **Lines make up blocks.** A text whose lines are those of a program comes to what evaluating the
program comes to: the same store, and all that becomes known, in the same order. No block is open in
the end, and the text notes nothing about blocks by itself. -/
theorem Program.interpretIn_eq_eval (program : Program) (c : Context) (s : Store) {t : Text}
    (hlines : Text.lines t = program.lines) :
    let evaluated := program.eval w (c.allowed (interpretIn w)) c 1 { store := s }
    interpretIn w c s t = ⟨evaluated.1.store, .outside, evaluated.2⟩ ∧
      BlocksFine (ownEvents w c s t) := by
  intro evaluated
  constructor
  · rw [interpretIn_eq, runText_program program hlines]
  · rw [ownEvents, runText_program program hlines]
    exact blocksFine_program program 1 { store := s }

/-- Two blocks; the condition of the second one asks for what the first one may set. -/
def branching : Program :=
  [.block
    { condition := ⟨['x'], none, false⟩
      opening := ⟨"%if x".toList, rfl⟩
      taken := [⟨"a=1".toList, rfl⟩]
      alternative := some (⟨"%else".toList, rfl⟩, [⟨"%include=m".toList, rfl⟩])
      closing := ⟨"%endif".toList, rfl⟩ },
    .block
    { condition := ⟨['a'], some ['1'], true⟩
      opening := ⟨"%if a!=1".toList, rfl⟩
      taken := []
      alternative := some (⟨"%else".toList, rfl⟩, [⟨"b=2".toList, rfl⟩])
      closing := ⟨"%endif".toList, rfl⟩ }]

/-- Only the ambient store defines `x`. -/
def branchingSurroundings : Surroundings where
  fetch := fun _ => .error (.httpStatus [] 404)
  readUrl := UrlReader.ascii
  ambient := some { entries := [(['x'], ['1'])] }
  workingDirectory := []

/-- The ambient store decides on the first block, and the line `a=1` in it on the second one. The
include is not executed. -/
theorem Program.interpretIn_eq_eval_branching :
    let o := interpretIn branchingSurroundings ⟨none, 1, []⟩ {}
      (List.intercalate ['\n'] branching.lines)
    o.store.entries = [(['a'], ['1']), (['b'], ['2'])] ∧ o.state = .outside ∧ o.events = [] := by
  have hlines : Text.lines (List.intercalate ['\n'] branching.lines) = branching.lines := by decide
  have heval := (Program.interpretIn_eq_eval (w := branchingSurroundings) branching ⟨none, 1, []⟩ {}
    hlines).1
  intro o
  rw [show o = _ from heval]
  exact ⟨by decide, rfl, rfl⟩

end PropertyConfig
