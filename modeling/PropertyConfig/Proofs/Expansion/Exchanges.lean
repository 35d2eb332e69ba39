import PropertyConfig.Proofs.Expansion.BytePass
import PropertyConfig.Proofs.Expansion.Pieces

/-!
# Exchanges

A pass replaces some stretches of a stored text. A reference and what takes its place make up an
exchange (`Exchange`), and `Exchange.Made` says which exchanges a pass makes. What takes the place
of a reference is, read by characters, what replaces it in the expander's pass
(`Expander.Replaces.glyphs`). Where a reference stands in front of a text, so does the piece that is
replaced (`Occurrence.Leads.piecesFrom_eq`); other stretches are made up of pieces that a pass keeps
(`Expander.Keeps`).
-/

namespace PropertyConfig

/-! ## Exchanges -/

/-- What takes the place of a reference that came out of the chain with the number `n`: the value,
under a chain that has one more key, or the fallback, under the same chain. -/
def Expander.Replaces (x : Expander) (f : Frame) (n : Nat) (chain : List Text) (r : Reference)
    (replacement : Numbered) : Prop :=
  match x.lookup r with
  | some value =>
    ∃ m, f.chains[m]? = some (chain ++ [r.key]) ∧ replacement = .ofText m (x.filter value)
  | none => replacement = .ofText n r.fallback

/-- A reference as it was written, the text in front of it that was kept, and what has taken its
place. -/
structure Exchange where
  kept : Numbered
  written : Numbered
  reference : Reference
  replacement : Numbered

namespace Exchange

def before (e : Exchange) : Numbered := e.kept ++ e.written

def after (e : Exchange) : Numbered := e.kept ++ e.replacement

/-- An exchange that a pass makes. `f` are the chains in front of the pass, and `f'` those behind
the exchange. -/
structure Made (x : Expander) (f f' : Frame) (e : Exchange) : Prop where
  kept_fits : e.kept.Fits f
  written_fits : e.written.Fits f
  written_eq : ∃ body, e.written.text = x.delimiters.opening ++ (body ++ x.delimiters.closing) ∧
    e.reference = Reference.read x.delimiters body
  replaces : ∃ n chain, e.written.origins.head? = some n ∧ f.chains[n]? = some chain ∧
    e.reference.key ∉ chain ∧ x.Replaces f' n chain e.reference e.replacement

end Exchange

/-- The stretch that is replaced, and the reference it is read as. -/
def Piece.replaced? : Piece → Option (List Glyph × Reference)
  | .reference written r _ => some (written, r)
  | _ => none

/-- The stretch as the pass over characters has it. -/
def Exchange.replaced (f : Frame) (e : Exchange) : List Glyph × Reference :=
  (e.written.glyphs f, e.reference)

section
variable {x : Expander} {f f' f'' : Frame} {n : Nat} {chain : List Text} {r : Reference}
  {replacement : Numbered}

theorem Expander.Replaces.mono (h : x.Replaces f n chain r replacement) (hle : f ≤ f') :
    x.Replaces f' n chain r replacement := by
  unfold Expander.Replaces at h ⊢
  split at h
  · obtain ⟨m, hm, hreplacement⟩ := h
    exact ⟨m, Frame.getElem?_of_le hle hm, hreplacement⟩
  · exact h

theorem Exchange.Made.mono {e : Exchange} (h : e.Made x f f') (hle : f' ≤ f'') :
    e.Made x f f'' := by
  obtain ⟨n, chain, hn, hchain, hkey, hreplaces⟩ := h.replaces
  exact ⟨h.kept_fits, h.written_fits, h.written_eq, n, chain, hn, hchain, hkey,
    hreplaces.mono hle⟩

/-- Read by characters, it is what the reference is replaced by there. -/
theorem Expander.Replaces.glyphs (h : x.Replaces f n chain r replacement)
    (hchain : f.chains[n]? = some chain) (written : List Glyph) :
    replacement.glyphs f = x.substitute (.reference written r (f.origin n)) := by
  rw [Expander.substitute, Frame.origin_eq hchain]
  cases hvalue : x.lookup r with
  | some value =>
    rw [Expander.Replaces, hvalue] at h
    obtain ⟨m, hm, rfl⟩ := h
    dsimp only
    rw [Numbered.glyphs_ofText, Frame.origin_eq hm, List.reverse_append]
    rfl
  | none =>
    rw [Expander.Replaces, hvalue] at h
    obtain rfl : replacement = .ofText n r.fallback := h
    dsimp only
    rw [Numbered.glyphs_ofText, Frame.origin_eq hchain]

/-- A reference can always be replaced. The chains stay what they are, and a new one has no key
twice. -/
theorem Expander.replace?_eq_some (hf : f.IsSimple) (hchain : f.chains[n]? = some chain)
    (hkey : r.key ∉ chain) :
    ∃ replacement f', x.replace? f n r = some (replacement, f') ∧ f ≤ f' ∧ f'.IsSimple ∧
      replacement.Fits f' ∧ x.Replaces f' n chain r replacement := by
  unfold Expander.replace? Expander.Replaces
  cases x.lookup r with
  | some value =>
    have hnew : (f.chains ++ [chain ++ [r.key]])[f.chains.length]? = some (chain ++ [r.key]) :=
      List.getElem?_concat_length
    refine ⟨.ofText f.chains.length (x.filter value), ⟨f.chains ++ [chain ++ [r.key]]⟩, ?_,
      List.prefix_append _ _, hf.extend hchain hkey, .ofText ?_ _, _, hnew, rfl⟩
    · dsimp only
      rw [Frame.extend?, hchain]
      rfl
    · simp
  | none =>
    obtain ⟨hn, -⟩ := List.getElem?_eq_some_iff.1 hchain
    exact ⟨_, f, rfl, Frame.le_refl f, hf, .ofText hn _, rfl⟩

end

/-! ## Pieces that are kept -/

/-- The pieces are kept, so a pass leaves `gs` as it is. -/
structure Expander.Keeps (x : Expander) (ps : List Piece) (gs : List Glyph) : Prop where
  replaced_eq : ps.filterMap Piece.replaced? = []
  substitute_eq : ps.flatMap x.substitute = gs

namespace Expander
variable {x : Expander}

theorem Keeps.append {ps qs : List Piece} {gs hs : List Glyph} (h : x.Keeps ps gs)
    (h' : x.Keeps qs hs) : x.Keeps (ps ++ qs) (gs ++ hs) :=
  ⟨by rw [List.filterMap_append, h.replaced_eq, h'.replaced_eq, List.append_nil],
    by rw [List.flatMap_append, h.substitute_eq, h'.substitute_eq]⟩

theorem keeps_kept (x : Expander) (gs : List Glyph) : x.Keeps [.kept gs] gs :=
  ⟨rfl, List.append_nil gs⟩

theorem keeps_held (x : Expander) (gs : List Glyph) (r : Reference) : x.Keeps [.held gs r] gs :=
  ⟨rfl, List.append_nil gs⟩

theorem keeps_map_kept (x : Expander) (gs : List Glyph) :
    x.Keeps (gs.map fun g => .kept [g]) gs := by
  constructor
  · simp [List.filterMap_map, Piece.replaced?, Function.comp_def]
  · simp [List.flatMap_map, substitute]

end Expander

/-! ## References in a stored text -/

/-- A reference as it is stored. -/
structure Occurrence where
  opening : Numbered
  body : Numbered
  closing : Numbered

namespace Occurrence

def written (o : Occurrence) : Numbered := o.opening ++ (o.body ++ o.closing)

def reference (d : Delimiters) (o : Occurrence) : Reference := Reference.read d o.body.text

/-- A text starts with the reference, and goes on with `rest`. -/
structure Leads (d : Delimiters) (f : Frame) (o : Occurrence) (t rest : Numbered) : Prop where
  text_eq : t = o.written ++ rest
  opening_fits : o.opening.Fits f
  body_fits : o.body.Fits f
  closing_fits : o.closing.Fits f
  rest_fits : rest.Fits f
  opening_text : o.opening.text = d.opening
  closing_text : o.closing.text = d.closing
  bodyLength?_eq : d.bodyLength? (o.body.text ++ (o.closing.text ++ rest.text)) =
    some o.body.text.length

/-- The text behind an opening delimiter is divided where the reference ends. -/
theorem exists_leads {d : Delimiters} (hd : d.Active) {f : Frame} {opening behind : Numbered}
    {n : Nat} (hopening : opening.Fits f) (hbehind : behind.Fits f)
    (htext : opening.text = d.opening) (hn : d.bodyLength? behind.text = some n) :
    ∃ o rest, Leads d f o (opening ++ behind) rest ∧ o.body.text = behind.text.take n := by
  obtain ⟨v, hv⟩ := Delimiters.closing_of_bodyLengthFrom? hn
  have hdivided : behind.text = behind.text.take n ++ (d.closing ++ v) := by
    rw [hv, List.take_append_drop]
  obtain ⟨body, more, rfl, hbody, hmore, hbodyFits, hmoreFits⟩ := hbehind.exists_append hdivided
  obtain ⟨closing, rest, rfl, hclosing, -, hclosingFits, hrestFits⟩ := hmoreFits.exists_append hmore
  refine ⟨⟨opening, body, closing⟩, rest, ?_, hbody⟩
  have hlength : body.text.length = n := by
    have hle := Delimiters.le_length_of_bodyLengthFrom? hd hn
    rw [hbody, List.length_take, Nat.min_eq_left hle]
  refine ⟨?_, hopening, hbodyFits, hclosingFits, hrestFits, htext, hclosing, ?_⟩
  · simp only [written, Numbered.append_assoc]
  · rwa [hlength]

namespace Leads
variable {d : Delimiters} {f : Frame} {o : Occurrence} {t rest : Numbered}

theorem written_fits (h : o.Leads d f t rest) : o.written.Fits f :=
  h.opening_fits.append (h.body_fits.append h.closing_fits)

theorem written_text (h : o.Leads d f t rest) :
    o.written.text = d.opening ++ (o.body.text ++ d.closing) := by
  simp [written, h.opening_text, h.closing_text]

/-- The chain that the reference came out of. -/
theorem exists_chain (h : o.Leads d f t rest) (hd : d.Active) :
    ∃ n chain, o.written.origins.head? = some n ∧ f.chains[n]? = some chain ∧
      ∀ g ∈ (o.opening.glyphs f).head?, g.origin = f.origin n := by
  have hne : o.opening.text ≠ [] := by
    rw [h.opening_text]
    exact hd.opening_ne_nil
  obtain ⟨n, chain, hn, hchain, horigin⟩ := h.opening_fits.exists_head hne
  exact ⟨n, chain, by simp [written, hn], hchain, horigin⟩

theorem piecesFrom_eq (h : o.Leads d f t rest) (hd : d.Active) {a : Text}
    (ha : a.getLast? ≠ some escapeChar) {origin : List Text}
    (horigin : ∀ g ∈ (o.opening.glyphs f).head?, g.origin = origin) :
    piecesFrom d a.getLast? 0 (t.glyphs f) =
      (if (o.reference d).key ∈ origin then .held (o.written.glyphs f) (o.reference d)
        else .reference (o.written.glyphs f) (o.reference d) origin) ::
        piecesFrom d (a ++ o.written.text).getLast? 0 (rest.glyphs f) := by
  have hopening : Glyph.chars (o.opening.glyphs f) = d.opening := by simp [h.opening_text]
  have hclosing : Glyph.chars (o.closing.glyphs f) = d.closing := by simp [h.closing_text]
  have hbody : d.bodyLength? (Glyph.chars (o.body.glyphs f ++
      (o.closing.glyphs f ++ rest.glyphs f))) = some (o.body.glyphs f).length := by
    simpa [Glyph.chars_append] using h.bodyLength?_eq
  have hwritten : o.written.glyphs f =
      o.opening.glyphs f ++ (o.body.glyphs f ++ o.closing.glyphs f) := by
    rw [written, Numbered.glyphs_append h.opening_fits.isAligned,
      Numbered.glyphs_append h.body_fits.isAligned]
  have hpieces := piecesFrom_closed hopening hd ha horigin hclosing hbody a
  simp only [← hwritten, Numbered.chars_glyphs] at hpieces
  rw [h.text_eq, Numbered.glyphs_append h.written_fits.isAligned, hpieces]
  rfl

end Leads

end Occurrence

end PropertyConfig
