import PropertyConfig.Expansion.Expander
import PropertyConfig.Proofs.Text.Slices

/-!
# Numbered chains of keys

A text under expansion can be stored as a plain text beside a list of numbers, one for each byte
(`Numbered`). A number stands for the chain of keys that the byte came out of; the chains are kept
in a frame (`Frame`), which only grows. The two belong together if there are as many numbers as
bytes and all of them number chains (`Numbered.Fits`). Such a text falls into parts that are of the
same kind (`Numbered.Fits.exists_append`), and read by characters it is a text of the expander
(`Numbered.glyphs`).
-/

namespace PropertyConfig

/-- The chains of keys that text came out of (`ExpansionFrame`), the earliest key first; a chain is
known by its place. -/
structure Frame where
  chains : List (List Text)
deriving DecidableEq, Repr

namespace Frame

/-- Chains keep their numbers while others are added. -/
instance : LE Frame := ⟨fun f f' => f.chains <+: f'.chains⟩

/-- Whether the chain of a number has a key (`chain_contains`), if there is such a chain. -/
def holds? (f : Frame) (n : Nat) (key : Text) : Option Bool :=
  f.chains[n]?.map fun chain => chain.contains key

/-- The chain of a number with one more key behind is added, under a number of its own
(`extend`). -/
def extend? (f : Frame) (n : Nat) (key : Text) : Option (Frame × Nat) :=
  f.chains[n]?.map fun chain => (⟨f.chains ++ [chain ++ [key]]⟩, f.chains.length)

/-- No chain has a key twice. -/
def IsSimple (f : Frame) : Prop := ∀ chain ∈ f.chains, chain.Nodup

instance (f : Frame) : Decidable f.IsSimple :=
  inferInstanceAs (Decidable (∀ chain ∈ f.chains, chain.Nodup))

/-- The keys of a chain, the latest first. -/
def origin (f : Frame) (n : Nat) : List Text := (f.chains.getD n []).reverse

variable {f f' f'' : Frame} {n : Nat} {chain : List Text} {key : Text}

theorem le_refl (f : Frame) : f ≤ f := List.prefix_rfl

theorem le_trans (h : f ≤ f') (h' : f' ≤ f'') : f ≤ f'' := List.IsPrefix.trans h h'

theorem length_le (h : f ≤ f') : f.chains.length ≤ f'.chains.length := List.IsPrefix.length_le h

theorem getElem?_of_le (h : f ≤ f') (hn : f.chains[n]? = some chain) :
    f'.chains[n]? = some chain := by
  obtain ⟨more, hmore⟩ := h
  obtain ⟨hlt, -⟩ := List.getElem?_eq_some_iff.1 hn
  rwa [← hmore, List.getElem?_append_left hlt]

theorem origin_eq (hn : f.chains[n]? = some chain) : f.origin n = chain.reverse := by
  rw [origin, List.getD_eq_getElem?_getD, hn]
  rfl

theorem origin_of_le (h : f ≤ f') (hn : n < f.chains.length) : f'.origin n = f.origin n := by
  have hchain := List.getElem?_eq_getElem hn
  rw [origin_eq hchain, origin_eq (getElem?_of_le h hchain)]

theorem IsSimple.extend (hf : f.IsSimple) (hn : f.chains[n]? = some chain) (hkey : key ∉ chain) :
    IsSimple ⟨f.chains ++ [chain ++ [key]]⟩ := by
  intro c hc
  rcases List.mem_append.1 hc with hc | hc
  · exact hf c hc
  · obtain rfl := List.mem_singleton.1 hc
    have hnodup : chain.Nodup := hf chain (List.mem_of_getElem? hn)
    rw [List.nodup_append]
    refine ⟨hnodup, by simp, ?_⟩
    rintro a ha _ (_ | ⟨_, ⟨⟩⟩)
    rintro rfl
    exact hkey ha

end Frame

/-- A text and, for each of its bytes, the number of a chain of keys. -/
@[ext]
structure Numbered where
  text : Text
  origins : List Nat
deriving DecidableEq, Repr

namespace Numbered

instance : Append Numbered := ⟨fun a b => ⟨a.text ++ b.text, a.origins ++ b.origins⟩⟩

@[simp] theorem text_append (a b : Numbered) : (a ++ b).text = a.text ++ b.text := rfl

@[simp] theorem origins_append (a b : Numbered) : (a ++ b).origins = a.origins ++ b.origins := rfl

theorem append_assoc (a b c : Numbered) : a ++ b ++ c = a ++ (b ++ c) := by
  ext1 <;> simp only [text_append, origins_append, List.append_assoc]

def empty : Numbered := ⟨[], []⟩

@[simp] theorem append_empty (t : Numbered) : t ++ empty = t :=
  Numbered.ext (List.append_nil _) (List.append_nil _)

/-- A text all of whose bytes came out of one chain. -/
def ofText (n : Nat) (t : Text) : Numbered := ⟨t, List.replicate (Text.bytes t) n⟩

/-- Some texts one after the other. -/
def joined (l : List Numbered) : Numbered := ⟨l.flatMap text, l.flatMap origins⟩

theorem joined_concat (l : List Numbered) (t : Numbered) : joined (l ++ [t]) = joined l ++ t := by
  ext1 <;> simp [joined]

/-! ## Slices -/

/-- The part between two places. -/
def slice? (t : Numbered) (i j : Nat) : Option Numbered :=
  (t.text.slice? i j).bind fun part =>
    if i ≤ j ∧ j ≤ t.origins.length then some ⟨part, (t.origins.drop i).take (j - i)⟩ else none

/-- The part behind a place. -/
def from? (t : Numbered) (i : Nat) : Option Numbered :=
  (t.text.from? i).bind fun part =>
    if i ≤ t.origins.length then some ⟨part, t.origins.drop i⟩ else none

/-- As many numbers as bytes. -/
def IsAligned (t : Numbered) : Prop := t.origins.length = Text.bytes t.text

instance (t : Numbered) : Decidable t.IsAligned :=
  inferInstanceAs (Decidable (t.origins.length = Text.bytes t.text))

variable {a b c t : Numbered} {f f' : Frame}

theorem IsAligned.append (ha : a.IsAligned) (hb : b.IsAligned) : (a ++ b).IsAligned := by
  rw [IsAligned, origins_append, text_append, List.length_append, Text.bytes_append, ha, hb]

theorem slice?_append (ha : a.IsAligned) (hb : b.IsAligned) (c : Numbered) :
    (a ++ b ++ c).slice? (Text.bytes a.text) (Text.bytes (a ++ b).text) = some b := by
  have hslice : (a ++ b ++ c).text.slice? (Text.bytes a.text) (Text.bytes (a ++ b).text) =
      some b.text := Text.slice?_eq_some_iff.2 ⟨a.text, c.text, rfl, rfl, rfl⟩
  have hbytes := Text.bytes_append a.text b.text
  rw [slice?, hslice, Option.bind_some, if_pos]
  · rw [text_append, hbytes, Nat.add_sub_cancel_left, origins_append, origins_append, ← ha, ← hb,
      List.append_assoc, List.drop_left, List.take_left]
  · rw [text_append, hbytes, origins_append, origins_append, List.length_append,
      List.length_append, ha, hb]
    omega

theorem from?_append (ha : a.IsAligned) (b : Numbered) :
    (a ++ b).from? (Text.bytes a.text) = some b := by
  have hfrom : (a ++ b).text.from? (Text.bytes a.text) = some b.text :=
    Text.from?_eq_some_iff.2 ⟨a.text, rfl, rfl⟩
  rw [from?, hfrom, Option.bind_some, if_pos]
  · rw [origins_append, ← ha, List.drop_left]
  · rw [origins_append, List.length_append, ha]
    omega

/-! ## Texts and frames -/

/-- A text and the frame of its chains: as many numbers as bytes, and all of them number chains. -/
structure Fits (t : Numbered) (f : Frame) : Prop where
  isAligned : t.IsAligned
  lt_of_mem : ∀ n ∈ t.origins, n < f.chains.length

instance (t : Numbered) (f : Frame) : Decidable (t.Fits f) :=
  decidable_of_iff (t.IsAligned ∧ ∀ n ∈ t.origins, n < f.chains.length)
    ⟨fun h => ⟨h.1, h.2⟩, fun h => ⟨h.isAligned, h.lt_of_mem⟩⟩

namespace Fits

theorem empty (f : Frame) : Numbered.empty.Fits f := ⟨rfl, fun _ hn => (List.not_mem_nil hn).elim⟩

theorem append (ha : a.Fits f) (hb : b.Fits f) : (a ++ b).Fits f :=
  ⟨ha.isAligned.append hb.isAligned, fun n hn =>
    (List.mem_append.1 hn).elim (ha.lt_of_mem n) (hb.lt_of_mem n)⟩

theorem mono (h : t.Fits f) (hle : f ≤ f') : t.Fits f' :=
  ⟨h.isAligned, fun n hn => Nat.lt_of_lt_of_le (h.lt_of_mem n hn) (Frame.length_le hle)⟩

theorem ofText {n : Nat} (hn : n < f.chains.length) (u : Text) : (ofText n u).Fits f :=
  ⟨List.length_replicate, fun m hm => by rwa [List.eq_of_mem_replicate hm]⟩

/-- Where the text is divided, the numbers are divided. -/
theorem exists_append (h : t.Fits f) {u v : Text} (htext : t.text = u ++ v) :
    ∃ a b : Numbered, t = a ++ b ∧ a.text = u ∧ b.text = v ∧ a.Fits f ∧ b.Fits f := by
  have hlength : t.origins.length = Text.bytes u + Text.bytes v := by
    rw [h.isAligned, htext, Text.bytes_append]
  refine ⟨⟨u, t.origins.take (Text.bytes u)⟩, ⟨v, t.origins.drop (Text.bytes u)⟩, ?_, rfl, rfl,
    ⟨?_, fun n hn => h.lt_of_mem n (List.mem_of_mem_take hn)⟩,
    ⟨?_, fun n hn => h.lt_of_mem n (List.mem_of_mem_drop hn)⟩⟩
  · exact Numbered.ext htext (List.take_append_drop _ _).symm
  · rw [IsAligned, List.length_take]
    exact Nat.min_eq_left (by omega)
  · rw [IsAligned, List.length_drop]
    exact Nat.sub_eq_of_eq_add' hlength

end Fits

/-! ## Characters -/

/-- A text character by character. A character counts as its first byte does. -/
def glyphsOf (f : Frame) : Text → List Nat → List Glyph
  | [], _ => []
  | c :: t, origins => ⟨c, f.origin (origins.headD 0)⟩ :: glyphsOf f t (origins.drop c.utf8Size)

/-- The text of the expander that is stored so. -/
def glyphs (t : Numbered) (f : Frame) : List Glyph := glyphsOf f t.text t.origins

@[simp] theorem chars_glyphs (t : Numbered) (f : Frame) : Glyph.chars (t.glyphs f) = t.text := by
  obtain ⟨text, origins⟩ := t
  unfold glyphs
  induction text generalizing origins with
  | nil => rfl
  | cons c text ih => exact congrArg (c :: ·) (ih _)

@[simp] theorem length_glyphs (t : Numbered) (f : Frame) : (t.glyphs f).length = t.text.length := by
  rw [← chars_glyphs t f, Glyph.chars, List.length_map]

/-- The numbers of the first character, and those of the others. -/
theorem IsAligned.of_cons {ch : Char} {text : Text} {origins : List Nat}
    (h : IsAligned ⟨ch :: text, origins⟩) :
    (∃ n rest, origins = n :: rest) ∧ ch.utf8Size ≤ origins.length ∧
      IsAligned ⟨text, origins.drop ch.utf8Size⟩ := by
  have hpos := ch.utf8Size_pos
  have hlength : origins.length = ch.utf8Size + Text.bytes text := by
    rw [← Text.bytes_cons]
    exact h
  refine ⟨List.exists_cons_of_ne_nil (List.ne_nil_of_length_pos (by omega)), by omega, ?_⟩
  rw [IsAligned, List.length_drop]
  exact Nat.sub_eq_of_eq_add' hlength

/-- The first character of a text and the chain it came out of. -/
theorem Fits.exists_head (h : t.Fits f) (ht : t.text ≠ []) :
    ∃ n chain, t.origins.head? = some n ∧ f.chains[n]? = some chain ∧
      ∀ g ∈ (t.glyphs f).head?, g.origin = f.origin n := by
  obtain ⟨text, origins⟩ := t
  obtain ⟨c, text, rfl⟩ := List.exists_cons_of_ne_nil ht
  obtain ⟨⟨n, rest, rfl⟩, -⟩ := h.isAligned.of_cons
  have hn : n < f.chains.length := h.lt_of_mem n List.mem_cons_self
  refine ⟨n, f.chains[n], rfl, List.getElem?_eq_getElem hn, ?_⟩
  rintro g ⟨⟩
  rfl

theorem glyphs_append (ha : a.IsAligned) (b : Numbered) (f : Frame) :
    (a ++ b).glyphs f = a.glyphs f ++ b.glyphs f := by
  obtain ⟨text, origins⟩ := a
  unfold glyphs
  induction text generalizing origins with
  | nil =>
    obtain rfl : origins = [] := List.length_eq_zero_iff.1 ha
    rfl
  | cons c text ih =>
    obtain ⟨⟨n, rest, horigins⟩, hle, haligned⟩ := ha.of_cons
    have hrest := ih (origins.drop c.utf8Size) haligned
    simp only [text_append, origins_append] at hrest ⊢
    rw [List.cons_append, glyphsOf, List.drop_append_of_le_length hle, hrest, horigins]
    rfl

theorem glyphs_of_le (h : t.Fits f) (hle : f ≤ f') : t.glyphs f' = t.glyphs f := by
  obtain ⟨text, origins⟩ := t
  obtain ⟨haligned, hlt⟩ := h
  unfold glyphs
  induction text generalizing origins with
  | nil => rfl
  | cons c text ih =>
    obtain ⟨⟨n, rest, horigins⟩, -, hrest⟩ := haligned.of_cons
    have hn : n < f.chains.length := hlt n (by simp [horigins])
    rw [glyphsOf, glyphsOf, ih _ hrest fun m hm => hlt m (List.mem_of_mem_drop hm), horigins,
      List.headD_cons, Frame.origin_of_le hle hn]

theorem glyphs_ofText (n : Nat) (u : Text) (f : Frame) :
    (ofText n u).glyphs f = Glyph.ofText (f.origin n) u := by
  unfold glyphs ofText
  induction u with
  | nil => rfl
  | cons c u ih =>
    have hpos := c.utf8Size_pos
    obtain ⟨k, hk⟩ := Nat.exists_eq_succ_of_ne_zero (Text.bytes_pos (List.cons_ne_nil c u)).ne'
    have hbytes := Text.bytes_cons c u
    have hdrop : (List.replicate (Text.bytes (c :: u)) n).drop c.utf8Size =
        List.replicate (Text.bytes u) n := by
      rw [List.drop_replicate, hbytes, Nat.add_sub_cancel_left]
    dsimp only at ih ⊢
    rw [glyphsOf, hdrop, ih, hk]
    rfl

end Numbered

end PropertyConfig
