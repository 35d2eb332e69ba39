import PropertyConfig.Proofs.Expansion.References

/-!
# Where characters count as coming from

Where the pieces of a text end, and what the references among them say, is a matter of its
characters (`references_map_relabel`). Only whether a reference is held is decided by the keys that
its first character came out of. So a text whose characters are taken to have come out of other keys
is divided alike as long as this neither holds a reference nor frees one (`pieces_map_relabel`), and
a pass makes the same characters of it (`chars_pass_map_relabel`).

A pass adds at most one key to those that a character came out of (`exists_of_mem_pass`). So no key
is looked up within a text all of which came out of it (`key_ne_of_mem_passesLookups`).
-/

namespace PropertyConfig

/-! ## Characters from elsewhere -/

namespace Glyph

/-- The character as if it came out of other keys. -/
def relabel (f : List Text → List Text) (g : Glyph) : Glyph := ⟨g.char, f g.origin⟩

@[simp] theorem chars_map_relabel (f : List Text → List Text) (gs : List Glyph) :
    chars (gs.map (relabel f)) = chars gs := by
  simp [chars, relabel, Function.comp_def]

@[simp] theorem origin_relabel (f : List Text → List Text) (g : Glyph) :
    (g.relabel f).origin = f g.origin := rfl

theorem map_relabel_ofText (f : List Text → List Text) (origin : List Text) (t : Text) :
    (ofText origin t).map (relabel f) = ofText (f origin) t := by
  simp [ofText, relabel]

theorem origin_of_mem_ofText {origin : List Text} {t : Text} {g : Glyph} (h : g ∈ ofText origin t) :
    g.origin = origin := by
  obtain ⟨c, -, rfl⟩ := List.mem_map.1 h
  rfl

end Glyph

namespace Piece

variable {f : List Text → List Text} {d : Delimiters}

def relabel (f : List Text → List Text) : Piece → Piece
  | .kept written => .kept (written.map (Glyph.relabel f))
  | .held written r => .held (written.map (Glyph.relabel f)) r
  | .reference written r origin => .reference (written.map (Glyph.relabel f)) r (f origin)

/-- A reference that is held is held still, and one that is looked up is looked up still. -/
def Agrees (f : List Text → List Text) : Piece → Prop
  | .kept _ => True
  | .held written r => ∀ g ∈ written.head?, r.key ∈ f g.origin
  | .reference _ r origin => r.key ∉ f origin

/-- The reference that stands there, whether it is looked up or held. -/
def standing? : Piece → Option Reference
  | .kept _ => none
  | .held _ r => some r
  | .reference _ r _ => some r

@[simp] theorem reference?_relabel (p : Piece) : (p.relabel f).reference? = p.reference? := by
  cases p <;> rfl

/-- A reference is held exactly if its first character came out of its key. -/
theorem first_cases (d : Delimiters) (before : Option Char) (g : Glyph) (t : List Glyph) :
    (∃ written, first d before g t = .kept written) ∨
    (∃ written r, first d before g t = .held written r ∧ r.key ∈ g.origin) ∨
    ∃ written r, first d before g t = .reference written r g.origin ∧ r.key ∉ g.origin := by
  unfold first opened
  split
  · split
    · exact .inl ⟨_, rfl⟩
    · split
      · exact .inl ⟨_, rfl⟩
      · dsimp only
        split
        · rename_i hkey
          exact .inr (.inl ⟨_, _, rfl, hkey⟩)
        · rename_i hkey
          exact .inr (.inr ⟨_, _, rfl, hkey⟩)
  · exact .inl ⟨_, rfl⟩

/-- How far a piece goes, and which reference it is, is a matter of the characters. -/
theorem written_and_standing?_first (d : Delimiters) (before : Option Char) (g : Glyph)
    (t : List Glyph) :
    (first d before (g.relabel f) (t.map (Glyph.relabel f))).written =
        (first d before g t).written.map (Glyph.relabel f) ∧
      (first d before (g.relabel f) (t.map (Glyph.relabel f))).standing? =
        (first d before g t).standing? := by
  have hstart : Glyph.startsWith d.opening ((g :: t).map (Glyph.relabel f)) =
      Glyph.startsWith d.opening (g :: t) := by
    rw [Glyph.startsWith, ← List.map_take, Glyph.chars_map_relabel]
    rfl
  unfold first opened
  rw [← List.map_cons, hstart]
  simp only [← List.map_drop, ← List.map_take, Glyph.chars_map_relabel]
  split
  · split
    · exact ⟨rfl, rfl⟩
    · split
      · exact ⟨rfl, rfl⟩
      · constructor <;> split <;> split <;> rfl
  · exact ⟨rfl, rfl⟩

theorem first_map_relabel (hd : d.opening ≠ []) {before : Option Char} {g : Glyph} {t : List Glyph}
    (h : (first d before g t).Agrees f) :
    first d before (g.relabel f) (t.map (Glyph.relabel f)) = (first d before g t).relabel f := by
  obtain ⟨hwritten, hstanding⟩ := written_and_standing?_first (f := f) d before g t
  have hother := first_cases d before (g.relabel f) (t.map (Glyph.relabel f))
  rcases first_cases d before g t with ⟨gs, hp⟩ | ⟨gs, r, hp, -⟩ | ⟨gs, r, hp, -⟩
  · rcases hother with ⟨_, hq⟩ | ⟨_, _, hq, -⟩ | ⟨_, _, hq, -⟩ <;>
      simp_all [Piece.written, standing?, relabel]
  · have hkey : r.key ∈ (g.relabel f).origin := by
      obtain ⟨n, hn⟩ := written_first hd before g t
      rw [hp] at h hn
      obtain rfl : gs = g :: t.take n := hn
      exact h g rfl
    rcases hother with ⟨_, hq⟩ | ⟨_, _, hq, -⟩ | ⟨_, _, hq, hnot⟩ <;>
      simp_all [Piece.written, standing?, relabel]
  · have hkey : r.key ∉ (g.relabel f).origin := by
      rw [hp] at h
      exact h
    rcases hother with ⟨_, hq⟩ | ⟨_, _, hq, hheld⟩ | ⟨_, _, hq, -⟩ <;>
      simp_all [Piece.written, standing?, relabel]

end Piece

/-! ## Pieces and passes -/

section
variable {f : List Text → List Text} {d : Delimiters} {before : Option Char} {skip : Nat}
  {text : List Glyph}

theorem piecesFrom_map_relabel (hd : d.opening ≠ [])
    (h : ∀ p ∈ piecesFrom d before skip text, p.Agrees f) :
    piecesFrom d before skip (text.map (Glyph.relabel f)) =
      (piecesFrom d before skip text).map (Piece.relabel f) := by
  induction text generalizing before skip with
  | nil => rfl
  | cons g t ih =>
    cases skip with
    | succ skip => exact ih h
    | zero =>
      obtain ⟨hfirst, hrest⟩ := List.forall_mem_cons.1 h
      obtain ⟨hwritten, -⟩ := Piece.written_and_standing?_first (f := f) d before g t
      rw [List.map_cons, piecesFrom, hwritten, List.length_map, Piece.first_map_relabel hd hfirst,
        piecesFrom, List.map_cons]
      exact congrArg _ (ih hrest)

theorem pieces_map_relabel (hd : d.opening ≠ []) (h : ∀ p ∈ pieces d text, p.Agrees f) :
    pieces d (text.map (Glyph.relabel f)) = (pieces d text).map (Piece.relabel f) :=
  piecesFrom_map_relabel hd h

/-- A piece is kept, or its first character decides whether it is held or looked up. -/
theorem cases_of_mem_pieces (hd : d.opening ≠ []) {p : Piece} (h : p ∈ pieces d text) :
    ∃ e ∈ text, p.written.head? = some e ∧ ((∃ written, p = .kept written) ∨
      (∃ written r, p = .held written r ∧ r.key ∈ e.origin) ∨
      ∃ written r, p = .reference written r e.origin ∧ r.key ∉ e.origin) := by
  obtain ⟨before, e, t, hsuffix, rfl⟩ := mem_piecesFrom h
  obtain ⟨n, hn⟩ := Piece.written_first hd before e t
  exact ⟨e, hsuffix.subset List.mem_cons_self, by rw [hn]; rfl, Piece.first_cases d before e t⟩

theorem standing?_piecesFrom_map_relabel (f : List Text → List Text) (d : Delimiters)
    (before : Option Char) (skip : Nat) (text : List Glyph) :
    (piecesFrom d before skip (text.map (Glyph.relabel f))).filterMap Piece.standing? =
      (piecesFrom d before skip text).filterMap Piece.standing? := by
  induction text generalizing before skip with
  | nil => rfl
  | cons g t ih =>
    cases skip with
    | succ skip => exact ih _ skip
    | zero =>
      obtain ⟨hwritten, hstanding⟩ := Piece.written_and_standing?_first (f := f) d before g t
      rw [List.map_cons, piecesFrom, hwritten, List.length_map, piecesFrom, List.filterMap_cons,
        List.filterMap_cons, hstanding, ih]
      rfl

end

namespace Expander

variable {x : Expander} {f : List Text → List Text} {text : List Glyph} {g : Glyph}

/-- The references that a pass comes across, also those that it holds. -/
def references (x : Expander) (text : List Glyph) : List Reference :=
  (pieces x.delimiters text).filterMap Piece.standing?

theorem mem_references_of_mem_lookups {r : Reference} (h : r ∈ x.lookups text) :
    r ∈ x.references text := by
  obtain ⟨p, hp, hlookup⟩ := List.mem_filterMap.1 h
  refine List.mem_filterMap.2 ⟨p, hp, ?_⟩
  cases p with
  | kept written => cases hlookup
  | held written r => cases hlookup
  | reference written r origin => exact hlookup

theorem references_map_relabel (x : Expander) (f : List Text → List Text) (text : List Glyph) :
    x.references (text.map (Glyph.relabel f)) = x.references text :=
  standing?_piecesFrom_map_relabel f x.delimiters none 0 text

theorem lookups_map_relabel (hd : x.delimiters.opening ≠ [])
    (h : ∀ p ∈ pieces x.delimiters text, p.Agrees f) :
    x.lookups (text.map (Glyph.relabel f)) = x.lookups text := by
  rw [lookups, lookups, pieces_map_relabel hd h, List.filterMap_map]
  exact List.filterMap_congr fun p _ => Piece.reference?_relabel p

theorem chars_pass_map_relabel (hd : x.delimiters.opening ≠ [])
    (h : ∀ p ∈ pieces x.delimiters text, p.Agrees f) :
    Glyph.chars (x.pass (text.map (Glyph.relabel f))) = Glyph.chars (x.pass text) := by
  have hsubstitute : ∀ p : Piece,
      Glyph.chars (x.substitute (p.relabel f)) = Glyph.chars (x.substitute p) := by
    intro p
    cases p with
    | kept written => exact Glyph.chars_map_relabel f written
    | held written r => exact Glyph.chars_map_relabel f written
    | reference written r origin =>
      simp only [Piece.relabel, substitute]
      cases x.lookup r <;> simp
  rw [pass, pass, pieces_map_relabel hd h, List.flatMap_map, Glyph.chars, Glyph.chars,
    List.map_flatMap, List.map_flatMap]
  exact List.flatMap_congr fun p _ => hsubstitute p

/-- If the keys that are looked up come in as they do otherwise, so does the text after the pass. -/
theorem pass_map_relabel (hd : x.delimiters.opening ≠ [])
    (h : ∀ p ∈ pieces x.delimiters text, p.Agrees f)
    (hkeys : ∀ r ∈ x.lookups text, ∀ origin, f (r.key :: origin) = r.key :: f origin) :
    x.pass (text.map (Glyph.relabel f)) = (x.pass text).map (Glyph.relabel f) := by
  rw [pass, pass, pieces_map_relabel hd h, List.flatMap_map, List.map_flatMap]
  refine List.flatMap_congr fun p hp => ?_
  cases p with
  | kept written => rfl
  | held written r => rfl
  | reference written r origin =>
    have hkey := hkeys r (List.mem_filterMap.2 ⟨_, hp, rfl⟩) origin
    simp only [Piece.relabel, substitute]
    cases x.lookup r with
    | none => exact (Glyph.map_relabel_ofText f origin _).symm
    | some value => rw [Glyph.map_relabel_ofText, hkey]

/-! ## Keys that characters come out of -/

/-- What a character came out of before a pass. -/
theorem exists_of_mem_pass (hd : x.delimiters.opening ≠ []) (h : g ∈ x.pass text) :
    ∃ e ∈ text, g.origin = e.origin ∨ ∃ r ∈ x.lookups text, g.origin = r.key :: e.origin := by
  obtain ⟨p, hp, hg⟩ := List.mem_flatMap.1 h
  have hkept : g ∈ p.written → g ∈ text := by
    intro hmem
    rw [← pieces_written hd text]
    exact List.mem_flatMap.2 ⟨p, hp, hmem⟩
  obtain ⟨e, he, -, hcases⟩ := cases_of_mem_pieces hd hp
  rcases hcases with ⟨written, rfl⟩ | ⟨written, r, rfl, -⟩ | ⟨written, r, rfl, -⟩
  · exact ⟨g, hkept hg, .inl rfl⟩
  · exact ⟨g, hkept hg, .inl rfl⟩
  · refine ⟨e, he, ?_⟩
    rw [substitute] at hg
    cases hr : x.lookup r with
    | none =>
      rw [hr] at hg
      exact .inl (Glyph.origin_of_mem_ofText hg)
    | some value =>
      rw [hr] at hg
      exact .inr ⟨r, List.mem_filterMap.2 ⟨_, hp, rfl⟩, Glyph.origin_of_mem_ofText hg⟩

/-- What all of a text came out of, all of it came out of after a pass. -/
theorem mem_origin_pass (hd : x.delimiters.opening ≠ []) {key : Text}
    (h : ∀ e ∈ text, key ∈ e.origin) : ∀ g ∈ x.pass text, key ∈ g.origin := by
  intro g hg
  obtain ⟨e, he, horigin | ⟨r, -, horigin⟩⟩ := exists_of_mem_pass hd hg
  · rw [horigin]
    exact h e he
  · rw [horigin]
    exact List.mem_cons_of_mem _ (h e he)

/-- What nothing in a text came out of, nothing comes out of in a pass that does not look it up. -/
theorem not_mem_origin_pass (hd : x.delimiters.opening ≠ []) {key : Text}
    (h : ∀ e ∈ text, key ∉ e.origin) (hkey : ∀ r ∈ x.lookups text, r.key ≠ key) :
    ∀ g ∈ x.pass text, key ∉ g.origin := by
  intro g hg
  obtain ⟨e, he, horigin | ⟨r, hr, horigin⟩⟩ := exists_of_mem_pass hd hg
  · rw [horigin]
    exact h e he
  · rw [horigin]
    rintro (_ | ⟨_, hmem⟩)
    · exact hkey r hr rfl
    · exact h e he hmem

theorem key_ne_of_mem_lookups (hd : x.delimiters.opening ≠ []) {key : Text}
    (h : ∀ e ∈ text, key ∈ e.origin) : ∀ r ∈ x.lookups text, r.key ≠ key := by
  intro r hr
  obtain ⟨p, hp, hlookup⟩ := List.mem_filterMap.1 hr
  obtain ⟨e, he, -, hcases⟩ := cases_of_mem_pieces hd hp
  rcases hcases with ⟨_, rfl⟩ | ⟨_, _, rfl, -⟩ | ⟨_, _, rfl, hfree⟩
  · cases hlookup
  · cases hlookup
  · obtain rfl := Option.some.inj hlookup
    rintro rfl
    exact hfree (h e he)

/-- A key is not looked up within what came out of it. -/
theorem key_ne_of_mem_passesLookups (hd : x.delimiters.opening ≠ []) {key : Text} {n : Nat}
    (h : ∀ e ∈ text, key ∈ e.origin) : ∀ r ∈ x.passesLookups n text, r.key ≠ key := by
  induction n generalizing text with
  | zero => exact fun r hr => absurd hr List.not_mem_nil
  | succ n ih =>
    intro r hr
    rw [passesLookups] at hr
    rcases List.mem_append.1 hr with hr | hr
    · exact key_ne_of_mem_lookups hd h r hr
    · split at hr
      · cases hr
      · exact ih (mem_origin_pass hd h) r hr

/-- A reference to a key that nothing came out of is looked up. -/
theorem mem_lookups_of_mem_references (hd : x.delimiters.opening ≠ []) {r : Reference}
    (hr : r ∈ x.references text) (h : ∀ e ∈ text, r.key ∉ e.origin) : r ∈ x.lookups text := by
  obtain ⟨p, hp, hstanding⟩ := List.mem_filterMap.1 hr
  obtain ⟨e, he, -, hcases⟩ := cases_of_mem_pieces hd hp
  rcases hcases with ⟨_, rfl⟩ | ⟨_, _, rfl, hheld⟩ | ⟨_, _, rfl, -⟩
  · cases hstanding
  · obtain rfl := Option.some.inj hstanding
    exact absurd hheld (h e he)
  · exact List.mem_filterMap.2 ⟨_, hp, hstanding⟩

end Expander

end PropertyConfig
