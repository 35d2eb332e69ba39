import PropertyConfig.Expansion.Piece
import PropertyConfig.Proofs.Expansion.Closing
import PropertyConfig.Proofs.Text.Prefixes

/-!
# From one opening delimiter to the next

With any delimiters, a text is divided into pieces along the occurrences of the opening delimiter.
In front of the first one every character is a piece of its own (`piecesFrom_of_cut?_eq_some`). An
occurrence behind an escape is kept, and so is all of the text behind one that is not closed; one
that is closed starts a reference (`piecesFrom_escaped`, `piecesFrom_unclosed`,
`piecesFrom_closed`).
-/

namespace PropertyConfig

theorem Glyph.startsWith_iff {mark : Text} {gs : List Glyph} :
    Glyph.startsWith mark gs ↔ mark <+: Glyph.chars gs := by
  rw [Glyph.startsWith, beq_iff_eq, Glyph.chars, List.map_take, eq_comm]
  exact List.prefix_iff_eq_take.symm

theorem Glyph.getLast?_chars (gs : List Glyph) :
    (Glyph.chars gs).getLast? = gs.getLast?.map Glyph.char := List.getLast?_map

theorem Glyph.chars_append (a b : List Glyph) :
    Glyph.chars (a ++ b) = Glyph.chars a ++ Glyph.chars b := List.map_append

theorem piecesFrom_skip (d : Delimiters) (before : Option Char) (a rest : List Glyph) :
    piecesFrom d before a.length (a ++ rest) =
      piecesFrom d ((a.getLast?.map Glyph.char).or before) 0 rest := by
  induction a generalizing before with
  | nil => simp
  | cons g a ih =>
    simp only [List.length_cons, List.cons_append, piecesFrom]
    rw [ih, List.getLast?_cons]
    cases a.getLast? <;> rfl

variable {d : Delimiters} {a : Text} {gs front rest : List Glyph}

/-- A piece and what comes behind it, where `a` is the text in front. -/
theorem piecesFrom_of_written {before : Option Char} {g : Glyph} {p : Piece}
    (hp : Piece.first d before g (front ++ rest) = p) (hwritten : p.written = g :: front) :
    piecesFrom d before 0 (g :: (front ++ rest)) =
      p :: piecesFrom d (a ++ Glyph.chars (g :: front)).getLast? 0 rest := by
  have hlast : (a ++ Glyph.chars (g :: front)).getLast? =
      (front.getLast?.map Glyph.char).or (some g.char) := by
    rw [List.getLast?_append, Glyph.getLast?_chars, List.getLast?_cons]
    cases front.getLast? <;> rfl
  rw [piecesFrom, hp, hwritten, List.length_cons, Nat.add_sub_cancel, piecesFrom_skip, hlast]

theorem piecesFrom_of_not_opening {before : Option Char} {g : Glyph}
    (h : ¬ d.opening <+: Glyph.chars (g :: rest)) :
    piecesFrom d before 0 (g :: rest) =
      .kept [g] :: piecesFrom d (a ++ [g.char]).getLast? 0 rest := by
  have hfirst : Piece.first d before g ([] ++ rest) = .kept [g] :=
    if_neg (mt Glyph.startsWith_iff.1 h)
  exact piecesFrom_of_written hfirst rfl

theorem piecesFrom_of_cut?_eq_none (before : Option Char)
    (h : Text.cut? d.opening (Glyph.chars gs) = none) :
    piecesFrom d before 0 gs = gs.map fun g => .kept [g] := by
  induction gs generalizing before with
  | nil => rfl
  | cons g gs ih =>
    rw [Glyph.chars, List.map_cons, Text.cut?] at h
    split at h
    · cases h
    · next hafter =>
      rw [piecesFrom_of_not_opening (a := []) (Text.after?_eq_none_iff.1 hafter),
        ih _ (Option.map_eq_none_iff.1 h)]
      rfl

theorem piecesFrom_of_cut?_eq_some {v : Text}
    (h : Text.cut? d.opening (Glyph.chars (front ++ rest)) = some (Glyph.chars front, v)) :
    piecesFrom d a.getLast? 0 (front ++ rest) =
      (front.map fun g => .kept [g]) ++
        piecesFrom d (a ++ Glyph.chars front).getLast? 0 rest := by
  induction front generalizing a with
  | nil => simp [Glyph.chars]
  | cons g front ih =>
    rw [List.cons_append, Glyph.chars, List.map_cons, Text.cut?] at h
    split at h
    · cases h
    · next hafter =>
      obtain ⟨p, hp, hpair⟩ := Option.map_eq_some_iff.1 h
      obtain ⟨hfront, rfl⟩ := Prod.mk.inj hpair
      have hrest : Text.cut? d.opening (Glyph.chars (front ++ rest)) =
          some (Glyph.chars front, p.2) := by
        have hchars : p.1 = Glyph.chars front := (List.cons.inj hfront).2
        rw [← hchars]
        exact hp
      rw [List.cons_append, piecesFrom_of_not_opening (Text.after?_eq_none_iff.1 hafter),
        ih hrest, List.append_assoc]
      rfl

/-! ## At an opening delimiter -/

section
variable {opening : List Glyph} (hopening : Glyph.chars opening = d.opening)
include hopening

theorem startsWith_opening (rest : List Glyph) : Glyph.startsWith d.opening (opening ++ rest) := by
  rw [Glyph.startsWith_iff, Glyph.chars_append, hopening]
  exact List.prefix_append _ _

theorem length_opening : opening.length = d.opening.length := by
  rw [← hopening, Glyph.chars, List.length_map]

variable (hd : d.Active)
include hd

theorem exists_opening_eq_cons : ∃ g gs, opening = g :: gs := by
  refine List.exists_cons_of_ne_nil ?_
  rintro rfl
  exact hd.opening_ne_nil hopening.symm

variable {before : Option Char}

theorem piecesFrom_escaped (h : before = some escapeChar) (a : Text) (rest : List Glyph) :
    piecesFrom d before 0 (opening ++ rest) =
      .kept opening :: piecesFrom d (a ++ d.opening).getLast? 0 rest := by
  have hlength := length_opening hopening
  have hstart := startsWith_opening hopening rest
  obtain ⟨g, gs, rfl⟩ := exists_opening_eq_cons hopening hd
  have hfirst : Piece.first d before g (gs ++ rest) = .kept (g :: gs) := by
    rw [Piece.first, ← List.cons_append, if_pos hstart, if_pos h, ← hlength, List.take_left]
  rw [← hopening]
  exact piecesFrom_of_written hfirst rfl

variable (h : before ≠ some escapeChar)
include h

theorem piecesFrom_unclosed (hbody : d.bodyLength? (Glyph.chars rest) = none) :
    piecesFrom d before 0 (opening ++ rest) = [.kept (opening ++ rest)] := by
  have hlength := length_opening hopening
  have hstart := startsWith_opening hopening rest
  obtain ⟨g, gs, rfl⟩ := exists_opening_eq_cons hopening hd
  have hfirst : Piece.first d before g (gs ++ rest ++ []) = .kept (g :: (gs ++ rest)) := by
    rw [List.append_nil, Piece.first, ← List.cons_append, if_pos hstart, if_neg h, Piece.opened,
      ← hlength, List.drop_left, hbody]
  have hpieces := piecesFrom_of_written (a := []) hfirst rfl
  rwa [List.append_nil] at hpieces

/-- The first character of the reference tells what it came out of. -/
theorem piecesFrom_closed {body closing : List Glyph} {origin : List Text}
    (horigin : ∀ g ∈ opening.head?, g.origin = origin) (hclosing : Glyph.chars closing = d.closing)
    (hbody : d.bodyLength? (Glyph.chars (body ++ (closing ++ rest))) = some body.length)
    (a : Text) :
    let written := opening ++ (body ++ closing)
    let r := Reference.read d (Glyph.chars body)
    piecesFrom d before 0 (written ++ rest) =
      (if r.key ∈ origin then .held written r else .reference written r origin) ::
        piecesFrom d (a ++ Glyph.chars written).getLast? 0 rest := by
  intro written r
  have hlength := length_opening hopening
  have hclosingLength : d.closing.length = closing.length := by
    rw [← hclosing, Glyph.chars, List.length_map]
  have happend : written ++ rest = opening ++ (body ++ (closing ++ rest)) := by
    simp only [written, List.append_assoc]
  have hstart : Glyph.startsWith d.opening (written ++ rest) := by
    rw [happend]
    exact startsWith_opening hopening _
  have htake : (written ++ rest).take (d.opening.length + body.length + d.closing.length) =
      written := by
    refine List.take_left' ?_
    rw [← hlength, hclosingLength, List.length_append, List.length_append, Nat.add_assoc]
  have hopened : Piece.opened d origin (written ++ rest) =
      if r.key ∈ origin then .held written r else .reference written r origin := by
    have hdrop : (written ++ rest).drop d.opening.length = body ++ (closing ++ rest) := by
      rw [happend, ← hlength, List.drop_left]
    rw [Piece.opened, hdrop, hbody]
    dsimp only
    rw [htake, List.take_left]
  obtain ⟨g, gs, rfl⟩ := exists_opening_eq_cons hopening hd
  have hfirst : Piece.first d before g (gs ++ (body ++ closing) ++ rest) =
      if r.key ∈ origin then .held written r else .reference written r origin := by
    rw [← hopened, Piece.first, if_neg h, horigin g rfl]
    exact if_pos hstart
  exact piecesFrom_of_written hfirst (by split <;> rfl)

end

end PropertyConfig
