import PropertyConfig.Proofs.Expansion.Exchanges

/-!
# What a pass has done

A pass over bytes makes exchanges and keeps all other stretches of the text. An account of the pass
(`Account`) names them: put together, what was exchanged and what was kept is the text, and what has
come instead is what the pass has written. Turn after turn exchanges are added to the account, and
it goes on describing what has been read and written so far (`Account.Holds`, `Account.Holds.turn`).
Every place that a turn asks for is the end of a stretch of the account, so none of its slices
fails. When the pass ends, the exchanged stretches are those that the expander's pass over
characters replaces, and the two passes have come to the same text.
-/

namespace PropertyConfig

/-! ## Accounts -/

/-- A text as a pass sees it: the exchanges made, the text behind the last one that has been read,
and the rest. -/
structure Account where
  exchanges : List Exchange
  kept : Numbered
  rest : Numbered

namespace Account

/-- The text that has been copied. -/
def done (c : Account) : Numbered := .joined (c.exchanges.map Exchange.before)

/-- The text that has been read. -/
def front (c : Account) : Numbered := c.done ++ c.kept

/-- The pieces of what has not been read. -/
def ahead (c : Account) (d : Delimiters) (f : Frame) : List Piece :=
  piecesFrom d c.front.text.getLast? 0 (c.rest.glyphs f)

/-- The first part of the rest is kept. -/
def skip (c : Account) (skipped rest : Numbered) : Account :=
  { c with kept := c.kept ++ skipped, rest := rest }

/-- The first part of the rest is a reference, which is exchanged. -/
def exchange (c : Account) (written : Numbered) (r : Reference) (replacement rest : Numbered) :
    Account :=
  ⟨c.exchanges ++ [⟨c.kept, written, r, replacement⟩], .empty, rest⟩

variable {c : Account} {written replacement rest : Numbered} {r : Reference}

theorem front_skip (skipped : Numbered) : (c.skip skipped rest).front = c.front ++ skipped :=
  (Numbered.append_assoc _ _ _).symm

theorem done_exchange : (c.exchange written r replacement rest).done = c.front ++ written := by
  rw [done, exchange, List.map_append, List.map_singleton, Numbered.joined_concat, front,
    Numbered.append_assoc]
  rfl

theorem front_exchange : (c.exchange written r replacement rest).front = c.front ++ written := by
  rw [front, done_exchange]
  exact Numbered.append_empty _

variable {d : Delimiters} {f f' : Frame}

theorem ahead_skip (skipped : Numbered) : (c.skip skipped rest).ahead d f =
    piecesFrom d (c.front.text ++ skipped.text).getLast? 0 (rest.glyphs f) := by
  rw [ahead, front_skip]
  rfl

theorem ahead_exchange : (c.exchange written r replacement rest).ahead d f =
    piecesFrom d (c.front.text ++ written.text).getLast? 0 (rest.glyphs f) := by
  rw [ahead, front_exchange]
  rfl

/-- How the account agrees with the progress of a pass over the text `t` under the chains `f`, and
with the pieces of the text. -/
structure Holds (x : Expander) (t : Numbered) (f : Frame) (p : Progress) (c : Account) : Prop where
  text_eq : t = c.front ++ c.rest
  done_fits : c.done.Fits f
  kept_fits : c.kept.Fits f
  rest_fits : c.rest.Fits f
  out_eq : p.out = .joined (c.exchanges.map Exchange.after)
  out_fits : p.out.Fits p.frame
  copied_eq : p.copied = Text.bytes c.done.text
  pos_eq : p.pos = Text.bytes c.front.text
  le_frame : f ≤ p.frame
  frame_isSimple : p.frame.IsSimple
  made : ∀ e ∈ c.exchanges, e.Made x f p.frame
  pieces_eq : ∃ ps, pieces x.delimiters (t.glyphs f) = ps ++ c.ahead x.delimiters f ∧
    ps.filterMap Piece.replaced? = c.exchanges.map (Exchange.replaced f) ∧
    ps.flatMap x.substitute = p.out.glyphs p.frame ++ c.kept.glyphs f

namespace Holds
variable {x : Expander} {t : Numbered} {p : Progress}

theorem start (hf : f.IsSimple) (ht : t.Fits f) :
    Holds x t f ⟨.empty, 0, 0, f⟩ ⟨[], .empty, t⟩ where
  text_eq := rfl
  done_fits := .empty f
  kept_fits := .empty f
  rest_fits := ht
  out_eq := rfl
  out_fits := .empty f
  copied_eq := rfl
  pos_eq := rfl
  le_frame := Frame.le_refl f
  frame_isSimple := hf
  made := by simp
  pieces_eq := ⟨[], rfl, rfl, rfl⟩

theorem front_fits (h : c.Holds x t f p) : c.front.Fits f := h.done_fits.append h.kept_fits

/-- The position moves on over text that is kept. -/
theorem skip {skipped : Numbered} {ps : List Piece} (h : c.Holds x t f p)
    (hrest : c.rest = skipped ++ rest) (hskipped : skipped.Fits f) (hfits : rest.Fits f)
    (hahead : c.ahead x.delimiters f = ps ++ (c.skip skipped rest).ahead x.delimiters f)
    (hkeeps : x.Keeps ps (skipped.glyphs f)) :
    (c.skip skipped rest).Holds x t f
      { p with pos := Text.bytes (c.front ++ skipped).text } := by
  obtain ⟨before, hbefore, hreplaced, hsubstitute⟩ := h.pieces_eq
  refine { h with
    text_eq := ?_, kept_fits := h.kept_fits.append hskipped, rest_fits := hfits, pos_eq := ?_,
    pieces_eq := ⟨before ++ ps, ?_, ?_, ?_⟩ }
  · rw [h.text_eq, hrest, ← Numbered.append_assoc, front_skip]
    rfl
  · rw [front_skip]
  · rw [hbefore, hahead, List.append_assoc]
  · rw [List.filterMap_append, hreplaced, hkeeps.replaced_eq, List.append_nil]
    rfl
  · rw [List.flatMap_append, hsubstitute, hkeeps.substitute_eq, List.append_assoc,
      ← Numbered.glyphs_append h.kept_fits.isAligned]
    rfl

/-- A reference in front of the rest is exchanged. -/
theorem exchange {n : Nat} (h : c.Holds x t f p) (hrest : c.rest = written ++ rest)
    (hfits : rest.Fits f) (hmade : Exchange.Made x f f' ⟨c.kept, written, r, replacement⟩)
    (hle : p.frame ≤ f') (hf' : f'.IsSimple) (hreplacement : replacement.Fits f')
    (hahead : c.ahead x.delimiters f = .reference (written.glyphs f) r (f.origin n) ::
      (c.exchange written r replacement rest).ahead x.delimiters f)
    (hglyphs : replacement.glyphs f' =
      x.substitute (.reference (written.glyphs f) r (f.origin n))) :
    let behind := Text.bytes (c.front ++ written).text
    (c.exchange written r replacement rest).Holds x t f
      ⟨p.out ++ c.kept ++ replacement, behind, behind, f'⟩ := by
  intro behind
  have hle' : f ≤ f' := Frame.le_trans h.le_frame hle
  have hkept : c.kept.Fits f' := h.kept_fits.mono hle'
  have hout : p.out.Fits f' := h.out_fits.mono hle
  obtain ⟨before, hbefore, hreplaced, hsubstitute⟩ := h.pieces_eq
  refine
    { text_eq := ?_
      done_fits := ?_
      kept_fits := .empty f
      rest_fits := hfits
      out_eq := ?_
      out_fits := (hout.append hkept).append hreplacement
      copied_eq := ?_
      pos_eq := ?_
      le_frame := hle'
      frame_isSimple := hf'
      made := ?_
      pieces_eq := ⟨before ++ [.reference (written.glyphs f) r (f.origin n)], ?_, ?_, ?_⟩ }
  · rw [front_exchange, h.text_eq, hrest, ← Numbered.append_assoc]
    rfl
  · rw [done_exchange]
    exact h.front_fits.append hmade.written_fits
  · rw [Account.exchange, List.map_append, List.map_singleton, Numbered.joined_concat, h.out_eq,
      Numbered.append_assoc]
    rfl
  · rw [done_exchange]
  · rw [front_exchange]
  · intro e he
    rcases List.mem_append.1 he with he | he
    · exact (h.made e he).mono hle
    · rwa [List.mem_singleton.1 he]
  · rw [hbefore, hahead, List.append_assoc]
    rfl
  · rw [List.filterMap_append, hreplaced, Account.exchange, List.map_append]
    rfl
  · rw [List.flatMap_append, hsubstitute, List.flatMap_singleton, ← hglyphs,
      Numbered.glyphs_append (hout.append hkept).isAligned, Numbered.glyphs_append hout.isAligned,
      Numbered.glyphs_of_le h.out_fits hle, Numbered.glyphs_of_le h.kept_fits hle']
    exact (List.append_nil _).symm

/-! ### A turn -/

/-- A reference is passed over or exchanged. -/
theorem turnAcross {o : Occurrence} (h : c.Holds x t f p) (hd : x.delimiters.Active)
    (ho : o.Leads x.delimiters f c.rest rest)
    (hescape : c.front.text.getLast? ≠ some escapeChar) :
    ∃ q, ∃ c' : Account, x.turnAcross t p (Text.bytes c.front.text)
        (Text.bytes (c.front.text ++ x.delimiters.opening ++ o.body.text)) = some (.next q) ∧
      c'.Holds x t f q := by
  let r := o.reference x.delimiters
  obtain ⟨n, chain, hn, hchain, horigin⟩ := ho.exists_chain hd
  have hheld : r.key ∈ f.origin n ↔ r.key ∈ chain := by
    rw [Frame.origin_eq hchain, List.mem_reverse]
  -- chains may have been added since the pass began, but this one is still what it was
  have hchain' := Frame.getElem?_of_le h.le_frame hchain
  have hturn : x.turnAcross (c.front ++ (o.written ++ rest)) p _ _ = _ :=
    Expander.turnAcross_eq h.front_fits.isAligned ho.written_text (r := r) rfl hn hchain'
  have hahead : c.ahead x.delimiters f = _ := ho.piecesFrom_eq hd hescape horigin
  rw [← ho.text_eq, ← h.text_eq] at hturn
  by_cases hkey : r.key ∈ chain
  · rw [if_pos (hheld.2 hkey), ← ahead_skip] at hahead
    exact ⟨_, _, hturn.trans (if_pos hkey),
      h.skip ho.text_eq ho.written_fits ho.rest_fits hahead (x.keeps_held _ r)⟩
  · obtain ⟨replacement, f', hreplace, hle, hf', hreplacement, hreplaces⟩ :=
      Expander.replace?_eq_some h.frame_isSimple hchain' hkey
    have hmade : Exchange.Made x f f' ⟨c.kept, o.written, r, replacement⟩ :=
      ⟨h.kept_fits, ho.written_fits, ⟨_, ho.written_text, rfl⟩, n, chain, hn, hchain, hkey,
        hreplaces⟩
    have hglyphs : replacement.glyphs f' =
        x.substitute (.reference (o.written.glyphs f) r (f.origin n)) := by
      have hchain'' := Frame.getElem?_of_le hle hchain'
      rw [hreplaces.glyphs hchain'' (o.written.glyphs f), Frame.origin_eq hchain'',
        Frame.origin_eq hchain]
    have hslice : t.slice? p.copied (Text.bytes c.front.text) = some c.kept := by
      rw [h.text_eq, h.copied_eq]
      exact Numbered.slice?_append h.done_fits.isAligned h.kept_fits.isAligned c.rest
    rw [if_neg hkey, hreplace, Option.bind_some, hslice, Option.bind_some] at hturn
    rw [if_neg (mt hheld.1 hkey), ← ahead_exchange] at hahead
    exact ⟨_, _, hturn,
      h.exchange ho.text_eq ho.rest_fits hmade hle hf' hreplacement hahead hglyphs⟩

end Holds

/-- The rest of the text is divided at the first opening delimiter in it. -/
structure Opens (d : Delimiters) (f : Frame) (c : Account) (before opening behind : Numbered) :
    Prop where
  rest_eq : c.rest = before ++ (opening ++ behind)
  before_fits : before.Fits f
  opening_fits : opening.Fits f
  behind_fits : behind.Fits f
  opening_text : opening.text = d.opening
  ahead_eq : c.ahead d f = (before.glyphs f).map (fun g => .kept [g]) ++
    piecesFrom d (c.front.text ++ before.text).getLast? 0 (opening.glyphs f ++ behind.glyphs f)

theorem exists_opens {u v : Text} (h : c.rest.Fits f)
    (hcut : Text.cut? d.opening c.rest.text = some (u, v)) :
    ∃ before opening behind, c.Opens d f before opening behind ∧ before.text = u ∧
      behind.text = v := by
  have hrest : c.rest.text = u ++ (d.opening ++ v) := by
    rw [Text.cut?_eq_some hcut, List.append_assoc]
  obtain ⟨before, more, hmore, rfl, hmoreText, hbefore, hmoreFits⟩ := h.exists_append hrest
  obtain ⟨opening, behind, rfl, hopeningText, rfl, hopening, hbehind⟩ :=
    hmoreFits.exists_append hmoreText
  have hglyphs : c.rest.glyphs f = before.glyphs f ++ (opening.glyphs f ++ behind.glyphs f) := by
    rw [hmore, Numbered.glyphs_append hbefore.isAligned, Numbered.glyphs_append hopening.isAligned]
  refine ⟨before, opening, behind, ⟨hmore, hbefore, hopening, hbehind, hopeningText, ?_⟩, rfl, rfl⟩
  rw [← c.rest.chars_glyphs f, hglyphs, ← before.chars_glyphs f] at hcut
  rw [ahead, hglyphs, piecesFrom_of_cut?_eq_some hcut, before.chars_glyphs]

namespace Opens
variable {x : Expander} {t : Numbered} {p : Progress} {before opening behind : Numbered}
  (h : c.Opens x.delimiters f before opening behind)
include h

theorem glyphs_eq :
    c.rest.glyphs f = before.glyphs f ++ (opening.glyphs f ++ behind.glyphs f) := by
  rw [h.rest_eq, Numbered.glyphs_append h.before_fits.isAligned,
    Numbered.glyphs_append h.opening_fits.isAligned]

theorem chars_opening : Glyph.chars (opening.glyphs f) = x.delimiters.opening := by
  rw [Numbered.chars_glyphs, h.opening_text]

/-- The text in front of the opening delimiter is passed over. -/
theorem skip (hc : c.Holds x t f p) : (c.skip before (opening ++ behind)).Holds x t f
    { p with pos := Text.bytes (c.front ++ before).text } := by
  refine hc.skip h.rest_eq h.before_fits (h.opening_fits.append h.behind_fits) ?_
    (x.keeps_map_kept _)
  rw [ahead_skip, Numbered.glyphs_append h.opening_fits.isAligned, h.ahead_eq]

variable (hd : x.delimiters.Active)
include hd

/-- So is the delimiter itself if it is behind an escape. -/
theorem skip_escaped (hc : c.Holds x t f p)
    (hescape : (c.front.text ++ before.text).getLast? = some escapeChar) :
    (c.skip (before ++ opening) behind).Holds x t f
      { p with pos := Text.bytes (c.front.text ++ before.text ++ x.delimiters.opening) } := by
  have hrest : c.rest = before ++ opening ++ behind := by rw [h.rest_eq, Numbered.append_assoc]
  have hahead : c.ahead x.delimiters f =
      (before.glyphs f).map (fun g => .kept [g]) ++ [.kept (opening.glyphs f)] ++
        (c.skip (before ++ opening) behind).ahead x.delimiters f := by
    rw [ahead_skip, h.ahead_eq,
      piecesFrom_escaped h.chars_opening hd hescape (c.front.text ++ before.text),
      Numbered.text_append, h.opening_text]
    simp
  have hkeeps : x.Keeps ((before.glyphs f).map (fun g => .kept [g]) ++ [.kept (opening.glyphs f)])
      ((before ++ opening).glyphs f) := by
    rw [Numbered.glyphs_append h.before_fits.isAligned]
    exact (x.keeps_map_kept _).append (x.keeps_kept _)
  have hskip := hc.skip hrest (h.before_fits.append h.opening_fits) h.behind_fits hahead hkeeps
  simpa [h.opening_text] using hskip

/-- Without an end to the reference, all of the rest is kept. -/
theorem keeps_unclosed (hescape : (c.front.text ++ before.text).getLast? ≠ some escapeChar)
    (hbody : x.delimiters.bodyLength? behind.text = none) :
    x.Keeps (c.ahead x.delimiters f) (c.rest.glyphs f) := by
  rw [← behind.chars_glyphs f] at hbody
  rw [h.ahead_eq, h.glyphs_eq, piecesFrom_unclosed h.chars_opening hd hescape hbody]
  exact (x.keeps_map_kept _).append (x.keeps_kept _)

end Opens

namespace Holds
variable {x : Expander} (hd : x.delimiters.Active) {t : Numbered} {p : Progress}

/-- A turn agrees with the account, or it finds that all of the rest is kept. -/
theorem turn (h : c.Holds x t f p) :
    (x.turn hd t p = some .stop ∧ x.Keeps (c.ahead x.delimiters f) (c.rest.glyphs f)) ∨
      ∃ q, ∃ c' : Account, x.turn hd t p = some (.next q) ∧ c'.Holds x t f q := by
  have htext : t.text = c.front.text ++ c.rest.text := by rw [h.text_eq, Numbered.text_append]
  have hturn : x.turn hd t p = _ := Expander.turn_eq htext h.pos_eq
  cases hcut : Text.cut? x.delimiters.opening c.rest.text with
  | none =>
    rw [hcut] at hturn
    rw [← c.rest.chars_glyphs f] at hcut
    refine .inl ⟨hturn, ?_⟩
    rw [ahead, piecesFrom_of_cut?_eq_none _ hcut]
    exact x.keeps_map_kept _
  | some w =>
    obtain ⟨u, v⟩ := w
    rw [hcut] at hturn
    dsimp only at hturn
    obtain ⟨before, opening, behind, hopens, rfl, rfl⟩ := exists_opens h.rest_fits hcut
    by_cases hescape : (c.front.text ++ before.text).getLast? = some escapeChar
    · rw [if_pos hescape] at hturn
      exact .inr ⟨_, _, hturn, hopens.skip_escaped hd h hescape⟩
    rw [if_neg hescape] at hturn
    cases hbody : x.delimiters.bodyLength? behind.text with
    | none =>
      rw [hbody] at hturn
      exact .inl ⟨hturn, hopens.keeps_unclosed hd hescape hbody⟩
    | some n =>
      rw [hbody] at hturn
      obtain ⟨o, rest, ho, hbodyText⟩ :=
        Occurrence.exists_leads hd hopens.opening_fits hopens.behind_fits hopens.opening_text hbody
      have hfront :
          (c.skip before (opening ++ behind)).front.text = c.front.text ++ before.text := by
        rw [front_skip, Numbered.text_append]
      obtain ⟨q, c', hacross, hq⟩ := (hopens.skip h).turnAcross hd ho (by rwa [hfront])
      rw [hfront, hbodyText] at hacross
      exact .inr ⟨q, c', hturn.trans hacross, hq⟩

/-! ### All turns -/

/-- All turns agree with an account, and in the end all of the rest is kept. -/
theorem run (h : c.Holds x t f p) :
    ∃ q, ∃ c' : Account, x.run hd t p = some q ∧ c'.Holds x t f q ∧
      x.Keeps (c'.ahead x.delimiters f) (c'.rest.glyphs f) := by
  -- every turn leaves fewer bytes behind the position
  induction hlength : Text.bytes t.text - p.pos using Nat.strong_induction_on generalizing p c with
  | _ length ih =>
    by_cases hpos : p.pos < Text.bytes t.text
    · obtain ⟨hturn, hkeeps⟩ | ⟨q, c', hturn, hq⟩ := h.turn hd
      · exact ⟨p, c, Expander.run_of_turn_eq_stop hturn, h, hkeeps⟩
      · have hlt := Expander.pos_lt_of_turn hturn
        rw [Expander.run_of_turn_eq_next hpos hturn]
        exact ih (Text.bytes t.text - q.pos) (by omega) hq rfl
    · refine ⟨p, c, Expander.run_of_length_le (Nat.not_lt.1 hpos), h, ?_⟩
      have hrest : c.rest.text = [] := by
        by_contra hne
        have hbytes := Text.bytes_pos hne
        have htext : Text.bytes t.text = Text.bytes c.front.text + Text.bytes c.rest.text := by
          rw [h.text_eq, Numbered.text_append, Text.bytes_append]
        rw [h.pos_eq] at hpos
        omega
      have hglyphs : c.rest.glyphs f = [] := by rw [Numbered.glyphs, hrest, Numbered.glyphsOf]
      rw [ahead, hglyphs]
      exact ⟨rfl, rfl⟩

end Holds

end Account

end PropertyConfig
