import PropertyConfig.Proofs.Load.Place

/-!
# What lines note

All that a line notes by itself is about this line, and none of it is that a block is open in the
end (`notesAt_step`). A line that is none of a block's own lines notes nothing about blocks
(`notesAt_stepPlain`).
-/

namespace PropertyConfig

/-- Whether a notice is about a line out of place, or not written as it should be, among those that
make up blocks. -/
def Notice.isAboutBlocks : Notice → Bool
  | .invalidIf _ | .nestedIf | .invalidCondition _ | .otherwiseOutside | .otherwiseTrailing
  | .endIfOutside | .endIfTrailing | .missingEndIf => true
  | _ => false

/-- All that is noted is about one line, and all notices have some property. -/
def NotesAt (c : Context) (line : Nat) (P : Notice → Prop) (events : List Event) : Prop :=
  ∀ d, .note d ∈ events → d.source = c.source ∧ d.line = some line ∧ P d.notice

namespace NotesAt

variable {c : Context} {line : Nat} {P Q : Notice → Prop} {a b events : List Event}

theorem nil : NotesAt c line P [] := by
  intro d h
  cases h

theorem append (ha : NotesAt c line P a) (hb : NotesAt c line P b) : NotesAt c line P (a ++ b) :=
  fun d h => (List.mem_append.1 h).elim (ha d) (hb d)

theorem mono (h : NotesAt c line P events) (hPQ : ∀ n, P n → Q n) : NotesAt c line Q events := by
  intro d hd
  obtain ⟨hsource, hline, hnotice⟩ := h d hd
  exact ⟨hsource, hline, hPQ _ hnotice⟩

theorem fetch (depth : Nat) (url : Url) : NotesAt c line P [.fetch depth url] := by
  intro d h
  simp at h

theorem noteAt {n : Notice} (hn : P n) : NotesAt c line P [c.noteAt line n] := by
  intro d h
  obtain rfl : d = _ := Event.note.inj (List.mem_singleton.1 h)
  exact ⟨rfl, rfl, hn⟩

theorem noteIf {n : Notice} (hn : P n) (b : Bool) :
    NotesAt c line P (if b then [c.noteAt line n] else []) := by
  cases b with
  | true => exact noteAt hn
  | false => exact nil

theorem asking (m : Machine) (target : Text) (url : Url) :
    NotesAt c line (·.isAboutBlocks = false) (asking c line m target url) :=
  (noteIf (by rfl) m.debugMode).append (fetch c.depth url)

theorem failure (f : Failure) (m : Machine) (isOptional : Bool) (target : Text) :
    NotesAt c line (·.isAboutBlocks = false) (f.events c line m isOptional target) := by
  refine append ?_ (noteAt ?_)
  · cases f.url? with
    | none => exact nil
    | some url => exact asking m target url
  · cases f <;> rfl

end NotesAt

variable {w : Surroundings} {c : Context} {read : Reader}

/-- A plain line notes nothing about blocks by itself. -/
theorem notesAt_stepPlain (line : Nat) (m : Machine) (l : Line) :
    NotesAt c line (·.isAboutBlocks = false)
      (stepPlain w (c.allowed read.silenced) c line m l).2 := by
  cases l with
  | log message =>
    rw [stepPlain, stepLog]
    split
    · exact .noteAt rfl
    · exact .nil
  | inclusion target isOptional =>
    simp only [stepPlain, stepInclude, include?_allowed]
    refine .append (.noteIf (by rfl) m.debugMode) ?_
    cases follow w c (expandIn (c.scope w m.store) target) with
    | error f => exact .failure f m isOptional _
    | ok found => exact .append (.asking m _ found.1) .nil
  | debugMode value => exact .noteIf (by rfl) ((Flag.read? false value).getD false)
  | unknown key => exact .noteAt rfl
  | _ => exact .nil

/-- What a line notes by itself is about this line. -/
theorem notesAt_step (line : Nat) (m : Machine) (l : Line) :
    NotesAt c line (· ≠ .missingEndIf) (step w (c.allowed read.silenced) c line m l).2 := by
  have hplain : ∀ n : Notice, n.isAboutBlocks = false → n ≠ .missingEndIf := by
    rintro _ h rfl
    cases h
  cases l with
  | invalidIf => exact .noteAt (by simp)
  | condition test =>
    simp only [step, stepCondition]
    split
    · exact .noteAt (by simp)
    · exact .noteIf (by simp) _
    · exact .noteAt (by simp)
  | otherwise trailing =>
    simp only [step, stepOtherwise]
    split
    · exact .noteAt (by simp)
    · exact .noteIf (by simp) trailing
    · exact .noteIf (by simp) trailing
  | endIf trailing =>
    simp only [step, stepEndIf]
    split
    · exact .noteAt (by simp)
    · exact .noteIf (by simp) trailing
  | _ =>
    simp only [step]
    split
    · exact .nil
    · exact (notesAt_stepPlain line m _).mono hplain

end PropertyConfig
