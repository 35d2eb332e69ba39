import PropertyConfig.Expansion.Reference

/-!
# Pieces of a text under expansion

While a text is expanded, each of its characters remembers the keys whose values brought it in. A
pass over the text divides it into pieces, references to be replaced and stretches to be kept; put
together again as they were written, the pieces are the text (`pieces_written`).
-/

namespace PropertyConfig

/-- A character and the keys whose values it came out of, the latest first (the chain of its
`ExpansionFrame`). -/
structure Glyph where
  char : Char
  origin : List Text
deriving DecidableEq, Repr

namespace Glyph

def chars (gs : List Glyph) : Text := gs.map Glyph.char

/-- A text all of whose characters came out of the same keys. -/
def ofText (origin : List Text) (t : Text) : List Glyph := t.map fun c => ⟨c, origin⟩

@[simp] theorem chars_ofText (origin : List Text) (t : Text) : chars (ofText origin t) = t := by
  simp [chars, ofText, Function.comp_def]

/-- The text starts with `mark`. -/
def startsWith (mark : Text) (gs : List Glyph) : Bool := chars (gs.take mark.length) == mark

end Glyph

/-- A stretch of the text as it was written, to be kept or to be replaced. -/
inductive Piece
  | kept (written : List Glyph)
  /-- A reference to a key that it came out of itself, to be kept. -/
  | held (written : List Glyph) (reference : Reference)
  /-- What replaces the reference comes out of the keys in `origin`, and out of its own key. -/
  | reference (written : List Glyph) (reference : Reference) (origin : List Text)
deriving DecidableEq, Repr

namespace Piece

def written : Piece → List Glyph
  | .kept gs => gs
  | .held gs _ => gs
  | .reference gs _ _ => gs

/-- The reference that is looked up. -/
def reference? : Piece → Option Reference
  | .reference _ r _ => some r
  | _ => none

/-- The piece that starts with an opening delimiter which is not escaped. Without an end to the
reference, all that follows is kept. -/
def opened (d : Delimiters) (origin : List Text) (text : List Glyph) : Piece :=
  match d.bodyLength? (Glyph.chars (text.drop d.opening.length)) with
  | none => .kept text
  | some n =>
    let written := text.take (d.opening.length + n + d.closing.length)
    let r := Reference.read d (Glyph.chars ((text.drop d.opening.length).take n))
    if r.key ∈ origin then .held written r else .reference written r origin

/-- The piece at the front of the text `g :: t`, where `before` is the character before it. -/
def first (d : Delimiters) (before : Option Char) (g : Glyph) (t : List Glyph) : Piece :=
  if Glyph.startsWith d.opening (g :: t) then
    if before = some escapeChar then .kept ((g :: t).take d.opening.length)
    else opened d g.origin (g :: t)
  else .kept [g]

end Piece

/-- The pieces of a text from left to right. The next `skip` characters belong to a piece that has
already been taken, and `before` is the character before the text. -/
def piecesFrom (d : Delimiters) : (before : Option Char) → (skip : Nat) → List Glyph → List Piece
  | _, _, [] => []
  | _, skip + 1, g :: t => piecesFrom d (some g.char) skip t
  | before, 0, g :: t =>
    let piece := Piece.first d before g t
    piece :: piecesFrom d (some g.char) (piece.written.length - 1) t

def pieces (d : Delimiters) (text : List Glyph) : List Piece := piecesFrom d none 0 text

namespace Piece

theorem written_first {d : Delimiters} (h : d.opening ≠ []) (before : Option Char) (g : Glyph)
    (t : List Glyph) :
    ∃ n, (first d before g t).written = g :: t.take n := by
  have hpos : d.opening.length = d.opening.length - 1 + 1 := by
    have := List.length_pos_iff.mpr h
    omega
  unfold first opened
  split
  · split
    · exact ⟨d.opening.length - 1, by rw [hpos]; rfl⟩
    · split
      · exact ⟨t.length, by simp [written]⟩
      · next n _ =>
        refine ⟨d.opening.length - 1 + n + d.closing.length, ?_⟩
        have : d.opening.length + n + d.closing.length =
            d.opening.length - 1 + n + d.closing.length + 1 := by omega
        dsimp only
        split <;> rw [written, this, List.take_succ_cons]
  · exact ⟨0, by simp [written]⟩

end Piece

theorem piecesFrom_written {d : Delimiters} (h : d.opening ≠ []) (before : Option Char)
    (skip : Nat) (text : List Glyph) :
    (piecesFrom d before skip text).flatMap Piece.written = text.drop skip := by
  induction text generalizing before skip with
  | nil => simp [piecesFrom]
  | cons g t ih =>
    cases skip with
    | succ skip => simpa [piecesFrom] using ih _ skip
    | zero =>
      obtain ⟨n, hn⟩ := Piece.written_first h before g t
      simp only [piecesFrom, List.flatMap_cons, hn, List.drop_zero, List.cons_append]
      rw [ih, List.length_cons, Nat.add_sub_cancel, List.length_take]
      congr 1
      rcases Nat.le_total n t.length with hle | hle
      · rw [Nat.min_eq_left hle, List.take_append_drop]
      · rw [Nat.min_eq_right hle, List.take_of_length_le hle, List.drop_length, List.append_nil]

theorem pieces_written {d : Delimiters} (h : d.opening ≠ []) (text : List Glyph) :
    (pieces d text).flatMap Piece.written = text :=
  piecesFrom_written h none 0 text

end PropertyConfig
