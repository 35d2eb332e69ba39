import PropertyConfig.Proofs.Expansion.Account
import PropertyConfig.Proofs.Expansion.Resting

/-!
# Expansion over bytes

A pass over bytes never asks for a slice or a number that there is not. It replaces disjoint
stretches of the text from left to right, keeps every other byte with its number, and leaves a text
that belongs to its chains as the first one did (`Expander.passOnBytes?_exchanges`). So the passes
of an expansion can follow one another over bytes, and what they come to is the expanded text
(`Expander.expandOnBytes?_eq`).
-/

namespace PropertyConfig

/-! ## A pass -/

/-- The text `t` with some of its stretches replaced. They are those that the pass over characters
replaces, in the same order; what stands in front of them and behind the last one is kept. -/
structure Exchanged (x : Expander) (t : Numbered) (f : Frame) (out : Numbered) (f' : Frame)
    (exchanges : List Exchange) (last : Numbered) : Prop where
  text_eq : t = .joined (exchanges.map Exchange.before) ++ last
  out_eq : out = .joined (exchanges.map Exchange.after) ++ last
  made : ∀ e ∈ exchanges, e.Made x f f'
  last_fits : last.Fits f
  replaced_eq : (pieces x.delimiters (t.glyphs f)).filterMap Piece.replaced? =
    exchanges.map (Exchange.replaced f)

namespace Account

/-- The text that has been written when the rest is kept. -/
def written (c : Account) (p : Progress) : Numbered := p.out ++ (c.kept ++ c.rest)

namespace Holds
variable {x : Expander} {t : Numbered} {f : Frame} {p : Progress} {c : Account}
  (h : c.Holds x t f p)
include h

theorem tail_fits : (c.kept ++ c.rest).Fits f := h.kept_fits.append h.rest_fits

theorem written_fits : (c.written p).Fits p.frame := h.out_fits.append (h.tail_fits.mono h.le_frame)

theorem text_eq_done : t = c.done ++ (c.kept ++ c.rest) := by
  rw [h.text_eq, front, Numbered.append_assoc]

variable (hkeeps : x.Keeps (c.ahead x.delimiters f) (c.rest.glyphs f))
include hkeeps

theorem exchanged :
    Exchanged x t f (c.written p) p.frame c.exchanges (c.kept ++ c.rest) where
  text_eq := h.text_eq_done
  out_eq := by rw [written, h.out_eq]
  made := h.made
  last_fits := h.tail_fits
  replaced_eq := by
    obtain ⟨ps, hps, hreplaced, -⟩ := h.pieces_eq
    rw [hps, List.filterMap_append, hreplaced, hkeeps.replaced_eq, List.append_nil]

theorem glyphs_written : (c.written p).glyphs p.frame = x.pass (t.glyphs f) := by
  obtain ⟨ps, hps, -, hsubstitute⟩ := h.pieces_eq
  rw [written, Numbered.glyphs_append h.out_fits.isAligned,
    Numbered.glyphs_of_le h.tail_fits h.le_frame, Numbered.glyphs_append h.kept_fits.isAligned,
    Expander.pass, hps, List.flatMap_append, hsubstitute, hkeeps.substitute_eq, List.append_assoc]

end Holds

end Account

namespace Expander
variable (x : Expander) (hd : x.delimiters.Active) {t : Numbered} {f : Frame}

/-- A pass comes to its end, and an account of it holds then. -/
theorem exists_account (hf : f.IsSimple) (ht : t.Fits f) :
    ∃ p, ∃ c : Account, x.passOnBytes? hd t f = some (c.written p, p.frame) ∧ c.Holds x t f p ∧
      x.Keeps (c.ahead x.delimiters f) (c.rest.glyphs f) := by
  obtain ⟨p, c, hrun, h, hkeeps⟩ := (Account.Holds.start (x := x) hf ht).run hd
  have hrest : t.from? p.copied = some (c.kept ++ c.rest) := by
    rw [h.text_eq_done, h.copied_eq]
    exact Numbered.from?_append h.done_fits.isAligned _
  refine ⟨p, c, ?_, h, hkeeps⟩
  rw [passOnBytes?, hrun, Option.bind_eq_bind, Option.bind_some, hrest]
  rfl

/-- A pass over bytes replaces disjoint stretches of the text and keeps everything else, and it is
the pass over characters. -/
theorem passOnBytes?_exchanges (hf : f.IsSimple) (ht : t.Fits f) :
    ∃ out f' exchanges last, x.passOnBytes? hd t f = some (out, f') ∧
      Exchanged x t f out f' exchanges last ∧ out.Fits f' ∧ f'.IsSimple ∧ f ≤ f' ∧
      out.glyphs f' = x.pass (t.glyphs f) := by
  obtain ⟨p, c, hpass, h, hkeeps⟩ := x.exists_account hd hf ht
  exact ⟨_, _, _, _, hpass, h.exchanged hkeeps, h.written_fits, h.frame_isSimple, h.le_frame,
    h.glyphs_written hkeeps⟩

/-- The delimiters of this one end with escapes, and some characters take up two bytes. -/
def quoting : Expander where
  lookup r := if r.key = ['k'] then some ['ü'] else none
  delimiters := ⟨['«', escapeChar], ['»', escapeChar], ['«'], ['|']⟩

def quoted : Numbered :=
  ⟨['é', '«', escapeChar, 'k', '»', escapeChar, 'é'], [0, 0, 1, 1, 1, 1, 1, 1, 1, 0, 0]⟩

def quotedFrame : Frame := ⟨[[['m']], [['m'], ['n']]]⟩

theorem passOnBytes?_exchanges_quoting :
    ∃ out f', quoting.passOnBytes? ⟨by decide, by decide⟩ quoted quotedFrame = some (out, f') ∧
      out.Fits f' ∧ out.text = "éüé".toList := by
  obtain ⟨out, f', exchanges, last, hpass, -, hout, -, -, hglyphs⟩ :=
    quoting.passOnBytes?_exchanges ⟨by decide, by decide⟩ (f := quotedFrame) (t := quoted)
      (by decide) (by decide)
  refine ⟨out, f', hpass, hout, ?_⟩
  rw [← out.chars_glyphs f', hglyphs]
  decide

/-! ## An expansion -/

/-- The text after at most `n` passes over bytes. -/
def passesOnBytes? : (n : Nat) → Numbered → Frame → Option Text
  | 0, t, _ => some t.text
  | n + 1, t, f => do
    let (next, f') ← x.passOnBytes? hd t f
    if next.text = t.text then some next.text else passesOnBytes? n next f'

/-- The text with its references replaced by passes over bytes (`expand`). In front of the first
one, all bytes came out of the key that the text belongs to. -/
def expandOnBytes? (text : Text) : Option Text :=
  if hd : x.delimiters.Active then
    match Text.placeOf? x.delimiters.opening text with
    | none => some text
    | some _ => x.passesOnBytes? hd maxPasses (.ofText 0 text) ⟨[x.mainKey.toList]⟩
  else some text

theorem passesOnBytes?_eq (n : Nat) (hf : f.IsSimple) (ht : t.Fits f) :
    x.passesOnBytes? hd n t f = some (Glyph.chars (x.passes n (t.glyphs f))) := by
  induction n generalizing t f with
  | zero => rw [passesOnBytes?, passes, Numbered.chars_glyphs]
  | succ n ih =>
    obtain ⟨p, c, hpass, h, hkeeps⟩ := x.exists_account hd hf ht
    have hglyphs := h.glyphs_written hkeeps
    have hsettled : (c.written p).text = t.text ↔ x.settled (t.glyphs f) = true := by
      rw [settled, ← hglyphs, Numbered.chars_glyphs, Numbered.chars_glyphs, beq_iff_eq]
    rw [passesOnBytes?, hpass, Option.bind_eq_bind, Option.bind_some, passes]
    dsimp only
    by_cases htext : (c.written p).text = t.text
    · rw [if_pos htext, if_pos (hsettled.1 htext), Numbered.chars_glyphs, htext]
    · rw [if_neg htext, if_neg (mt hsettled.2 htext), ih h.frame_isSimple h.written_fits, hglyphs]

variable {x}

theorem isActive_iff : x.isActive = true ↔ x.delimiters.Active := by
  rw [isActive, Bool.and_eq_true, bne_iff_ne, bne_iff_ne]
  exact ⟨fun h => ⟨h.1, h.2⟩, fun h => ⟨h.opening_ne_nil, h.closing_ne_nil⟩⟩

/-- Without an opening delimiter nothing is replaced. -/
theorem pass_of_cut?_eq_none {gs : List Glyph}
    (h : Text.cut? x.delimiters.opening (Glyph.chars gs) = none) : x.pass gs = gs := by
  rw [pass, pieces, piecesFrom_of_cut?_eq_none none h]
  exact (x.keeps_map_kept gs).substitute_eq

variable (x)

theorem glyphs_start (text : Text) :
    (Numbered.ofText 0 text).glyphs ⟨[x.mainKey.toList]⟩ = x.start text := by
  rw [Numbered.glyphs_ofText, start]
  cases x.mainKey <;> rfl

/-- Expansion over bytes never fails, and it comes to the expanded text. -/
theorem expandOnBytes?_eq (text : Text) : x.expandOnBytes? text = some (x.expand text) := by
  rw [expandOnBytes?]
  by_cases hd : x.delimiters.Active
  · rw [dif_pos hd]
    split
    · next hplace =>
      have hcut : Text.cut? x.delimiters.opening (Glyph.chars (x.start text)) = none := by
        rw [start, Glyph.chars_ofText]
        exact Option.map_eq_none_iff.1 hplace
      have hpass := congrArg Glyph.chars (pass_of_cut?_eq_none hcut)
      rw [expand_of_settled (beq_iff_eq.2 hpass)]
    · have hsimple : Frame.IsSimple ⟨[x.mainKey.toList]⟩ := by
        cases x.mainKey <;> simp [Frame.IsSimple]
      rw [x.passesOnBytes?_eq hd maxPasses hsimple (.ofText Nat.one_pos text), glyphs_start, expand,
        if_pos (isActive_iff.2 hd)]
  · rw [dif_neg hd, expand, if_neg (mt isActive_iff.1 hd)]

end Expander

end PropertyConfig
