import PropertyConfig.Proofs.Expansion.Evaluation
import PropertyConfig.Proofs.Store.Keys
import PropertyConfig.Store.Read

/-!
# Passes evaluate templates

One pass over the text of a template replaces its outermost references, each by the text of one
template (`pass_spread`). So the text after each pass is again that of a template, one level less
deep, and six passes evaluate every template that is at most six levels deep (`expand_text`).

While a text is expanded, its templates stand in stretches, each of which came out of the same keys
from end to end. No reference goes back to a key that its stretch came out of (`Guarded`), since
references are acyclic; this is why no reference is held.
-/

namespace PropertyConfig

/-! ## A pass over stretches -/

/-- A template all of whose text came out of the same keys. -/
structure Stretch where
  origin : List Text
  template : Template

namespace Stretch

def glyphs (s : Stretch) : List Glyph := Glyph.ofText s.origin s.template.text

/-- The text that some stretches make up. -/
def spread (l : List Stretch) : List Glyph := l.flatMap glyphs

/-- The template that some stretches make up. -/
def joined : List Stretch → Template
  | [] => .done
  | s :: l => s.template.append (joined l)

/-- What takes the place of a reference. -/
def ofReference (v : Definitions) (origin : List Text) (key : Text) (fallback : Template) :
    Stretch :=
  match v key with
  | some t => ⟨key :: origin, t⟩
  | none => ⟨origin, fallback⟩

/-- The stretches that a template becomes in one pass. -/
def ofTemplate (v : Definitions) (origin : List Text) : Template → List Stretch
  | .done => []
  | .literal t rest => ⟨origin, .literal t .done⟩ :: ofTemplate v origin rest
  | .escaped body rest => ⟨origin, .escaped body .done⟩ :: ofTemplate v origin rest
  | .reference key _ rest => ofReference v origin key .done :: ofTemplate v origin rest
  | .referenceOr key _ fallback rest =>
    ofReference v origin key fallback :: ofTemplate v origin rest

def unfold (v : Definitions) (s : Stretch) : List Stretch := ofTemplate v s.origin s.template

@[simp] theorem spread_cons (s : Stretch) (l : List Stretch) :
    spread (s :: l) = s.glyphs ++ spread l := rfl

theorem chars_spread (l : List Stretch) : Glyph.chars (spread l) = (joined l).text := by
  induction l with
  | nil => rfl
  | cons s l ih =>
    have hs : Glyph.chars s.glyphs = s.template.text := Glyph.chars_ofText _ _
    rw [spread_cons, joined, Template.text_append, ← ih, ← hs]
    simp [Glyph.chars]

theorem joined_append (a b : List Stretch) : joined (a ++ b) = (joined a).append (joined b) := by
  induction a with
  | nil => rfl
  | cons s a ih => rw [List.cons_append, joined, ih, joined, Template.append_assoc]

theorem template_ofReference (v : Definitions) (origin : List Text) (key : Text)
    (fallback : Template) :
    (ofReference v origin key fallback).template = (v key).getD fallback := by
  unfold ofReference
  cases v key <;> rfl

theorem joined_ofTemplate (v : Definitions) (origin : List Text) (t : Template) :
    joined (ofTemplate v origin t) = t.unfold v := by
  induction t with
  | done => rfl
  | literal t rest ih | escaped t rest ih =>
    simp [ofTemplate, joined, ih, Template.append, Template.unfold]
  | reference key argument rest ih | referenceOr key argument fallback rest _ ih =>
    rw [ofTemplate, joined, ih, template_ofReference, Template.unfold]

theorem joined_flatMap_unfold (v : Definitions) (l : List Stretch) :
    joined (l.flatMap (unfold v)) = (joined l).unfold v := by
  induction l with
  | nil => rfl
  | cons s l ih =>
    rw [List.flatMap_cons, joined_append, ih, unfold, joined_ofTemplate, joined,
      Template.unfold_append]

end Stretch

/-- The expander looks keys up in some definitions and goes by the usual rules otherwise. -/
structure Expander.Follows (x : Expander) (v : Definitions) : Prop where
  delimiters : x.delimiters = {}
  filter : x.filter = id
  lookup : ∀ r, x.lookup r = (v r.key).map Template.text

namespace Template

theorem balanced_bodyText {key : Text} (hkey : isKey key) {argument : Option Text}
    (ha : isArgument argument) {fallback : Option Text}
    (hf : ∀ f ∈ fallback, Delimiters.Balanced f) :
    Delimiters.Balanced (bodyText key argument fallback) := by
  simp only [isKey, Bool.and_eq_true] at hkey
  have hplain : isPlain key := hkey.1.1.2
  refine ((Delimiters.balanced_of_plain hplain).append ?_).append ?_
  · cases argument with
    | none => exact Delimiters.balanced_nil
    | some a =>
      simp only [isArgument, Option.all_some, Bool.and_eq_true] at ha
      exact (Delimiters.balanced_singleton (by decide)).append (Delimiters.balanced_of_plain ha.1)
  · cases fallback with
    | none => exact Delimiters.balanced_nil
    | some f => exact (Delimiters.balanced_singleton (by decide)).append (hf f rfl)

theorem balanced_text {t : Template} (h : t.isWellFormed) (hu : t.isUnescaped) :
    Delimiters.Balanced t.text := by
  induction t with
  | done => exact Delimiters.balanced_nil
  | literal t rest ih =>
    simp only [isWellFormed, Bool.and_eq_true] at h
    exact (Delimiters.balanced_of_plain h.1).append (ih h.2 hu)
  | escaped => simp [isUnescaped] at hu
  | reference key argument rest ih =>
    simp only [isWellFormed, Bool.and_eq_true] at h
    exact (balanced_bodyText h.1.1 h.1.2 (by simp)).reference.append (ih h.2 hu)
  | referenceOr key argument fallback rest ihf ih =>
    simp only [isWellFormed, Bool.and_eq_true] at h
    obtain ⟨⟨⟨⟨⟨hkey, ha⟩, hf⟩, hfu⟩, _⟩, hrest⟩ := h
    refine (balanced_bodyText hkey ha fun f hmem => ?_).reference.append (ih hrest hu)
    obtain rfl : text fallback = f := by simpa using hmem
    exact ihf hf hfu

end Template

namespace Expander.Follows

variable {x : Expander} {v : Definitions} (hx : x.Follows v)
include hx

/-- A reference of a template becomes the text of one template. -/
theorem passFrom_referenceText {key : Text} (hkey : Template.isKey key) {argument : Option Text}
    (ha : Template.isArgument argument) {fallback : Option Text}
    (hf : fallback.all Text.endsBare) (hbalanced : ∀ f ∈ fallback, Delimiters.Balanced f)
    {origin : List Text} (hnot : key ∉ origin) {before : Option Char}
    (hbefore : before ≠ some escapeChar) (rest : List Glyph) :
    x.passFrom before
        (Glyph.ofText origin (Template.referenceText key argument fallback) ++ rest) =
      (match v key with
        | some t => Glyph.ofText (key :: origin) t.text
        | none => Glyph.ofText origin (fallback.getD [])) ++ x.passFrom (some '\x7d') rest := by
  have hread := Template.read_bodyText hkey ha hf
  have hbody : Delimiters.Balanced
      (Glyph.chars (Glyph.ofText origin (Template.bodyText key argument fallback))) := by
    rw [Glyph.chars_ofText]
    exact Template.balanced_bodyText hkey ha hbalanced
  have h := passFrom_reference hx.delimiters hbefore origin origin origin hbody rest
  simp only [Glyph.chars_ofText, hread, if_neg hnot] at h
  have hwritten : Glyph.ofText origin (Template.referenceText key argument fallback) =
      ⟨'$', origin⟩ :: ⟨'\x7b', origin⟩ ::
        (Glyph.ofText origin (Template.bodyText key argument fallback) ++ [⟨'\x7d', origin⟩]) := by
    simp [Template.referenceText, Glyph.ofText]
  rw [hwritten, h, substitute, hx.lookup, hx.filter]
  cases v key <;> rfl

theorem passFrom_escapedText {body : Text} (hbody : Template.isPlain body) (origin : List Text)
    (before : Option Char) (rest : List Glyph) :
    x.passFrom before (Glyph.ofText origin (Template.escapedText body) ++ rest) =
      Glyph.ofText origin (Template.escapedText body) ++ x.passFrom (some '\x7d') rest := by
  have hwritten : Glyph.ofText origin (Template.escapedText body) ++ rest =
      ⟨escapeChar, origin⟩ :: ⟨'$', origin⟩ :: ⟨'\x7b', origin⟩ ::
        (Glyph.ofText origin body ++ ⟨'\x7d', origin⟩ :: rest) := by
    simp [Template.escapedText, Glyph.ofText]
  have hescape := passFrom_cons hx.delimiters before (g := ⟨escapeChar, origin⟩)
    (t := ⟨'$', origin⟩ :: ⟨'\x7b', origin⟩ ::
      (Glyph.ofText origin body ++ ⟨'\x7d', origin⟩ :: rest))
    (by simp [Glyph.startsWith_opening_cons, escapeChar])
  have hclose := passFrom_cons hx.delimiters (body.getLast?.or (some '\x7b'))
    (g := ⟨'\x7d', origin⟩) (t := rest) (by simp [Glyph.startsWith_opening_cons])
  rw [hwritten, hescape, passFrom_escaped hx.delimiters, passFrom_plain hx.delimiters hbody,
    hclose]
  simp [Template.escapedText, Glyph.ofText]

/-- Each reference of a stretch is replaced, whatever follows the stretch. The character before what
follows is no escape again. -/
theorem passFrom_template {t : Template} (ht : t.isWellFormed) {origin : List Text}
    (hnot : ∀ k ∈ t.keys, k ∉ origin) {before : Option Char} (hbefore : before ≠ some escapeChar)
    (rest : List Glyph) :
    ∃ last, last ≠ some escapeChar ∧
      x.passFrom before (Glyph.ofText origin t.text ++ rest) =
        Stretch.spread (Stretch.ofTemplate v origin t) ++ x.passFrom last rest := by
  have happend : ∀ a b : Text, Glyph.ofText origin (a ++ b) ++ rest =
      Glyph.ofText origin a ++ (Glyph.ofText origin b ++ rest) := by simp [Glyph.ofText]
  have hclosing : some '\x7d' ≠ some escapeChar := by decide
  induction t generalizing before with
  | done => exact ⟨before, hbefore, rfl⟩
  | literal t u ih =>
    simp only [Template.isWellFormed, Bool.and_eq_true] at ht
    have hlast : t.getLast?.or before ≠ some escapeChar := by
      cases hl : t.getLast? with
      | none => exact hbefore
      | some c =>
        have hc : Delimiters.isPlainChar c :=
          List.all_eq_true.1 ht.1 c (List.mem_of_getLast? hl)
        rintro ⟨⟩
        exact absurd hc (by decide)
    obtain ⟨last, hne, h⟩ := ih ht.2 hnot hlast
    refine ⟨last, hne, ?_⟩
    rw [Template.text, happend, passFrom_plain hx.delimiters ht.1, h]
    simp [Stretch.ofTemplate, Stretch.glyphs, Template.text]
  | escaped body u ih =>
    simp only [Template.isWellFormed, Bool.and_eq_true] at ht
    obtain ⟨last, hne, h⟩ := ih ht.2 hnot hclosing
    refine ⟨last, hne, ?_⟩
    rw [Template.text, happend, hx.passFrom_escapedText ht.1, h]
    simp [Stretch.ofTemplate, Stretch.glyphs, Template.text]
  | reference key argument u ih =>
    simp only [Template.isWellFormed, Bool.and_eq_true] at ht
    obtain ⟨last, hne, h⟩ := ih ht.2 (fun k hk => hnot k (by simp [Template.keys, hk])) hclosing
    refine ⟨last, hne, ?_⟩
    rw [Template.text, happend, hx.passFrom_referenceText ht.1.1 ht.1.2 rfl (by simp)
      (hnot key (by simp [Template.keys])) hbefore, h, Stretch.ofTemplate, Stretch.spread_cons,
      Stretch.ofReference, List.append_assoc]
    cases v key <;> rfl
  | referenceOr key argument fallback u _ ih =>
    simp only [Template.isWellFormed, Bool.and_eq_true] at ht
    obtain ⟨⟨⟨⟨⟨hkey, ha⟩, hf⟩, hfu⟩, hend⟩, hu⟩ := ht
    obtain ⟨last, hne, h⟩ := ih hu (fun k hk => hnot k (by simp [Template.keys, hk])) hclosing
    have hbalanced : ∀ f ∈ some fallback.text, Delimiters.Balanced f := by
      rintro f ⟨⟩
      exact Template.balanced_text hf hfu
    refine ⟨last, hne, ?_⟩
    rw [Template.text, happend, hx.passFrom_referenceText hkey ha (by simpa using hend) hbalanced
      (hnot key (by simp [Template.keys])) hbefore, h, Stretch.ofTemplate, Stretch.spread_cons,
      Stretch.ofReference, List.append_assoc]
    cases v key <;> rfl

end Expander.Follows

/-! ## Passes, one after the other -/

namespace Stretch

/-- No reference goes back to a key that its stretch came out of. -/
def Guarded (v : Definitions) (l : List Stretch) : Prop :=
  ∀ s ∈ l, s.template.isWellFormed ∧ ∀ k ∈ s.template.keys, ∀ o ∈ s.origin,
    Relation.TransGen (Template.RefersTo v) o k

theorem isWellFormed_joined {v : Definitions} {l : List Stretch} (h : Guarded v l) :
    (joined l).isWellFormed := by
  induction l with
  | nil => rfl
  | cons s l ih =>
    exact Template.isWellFormed_append (h s (by simp)).1
      (ih fun u hu => h u (List.mem_cons_of_mem _ hu))

/-- What a reference is replaced by is guarded again: a definition comes out of one key more, which
refers to all keys in it. -/
theorem guarded_ofReference {v : Definitions} (hv : ∀ k t, v k = some t → t.isWellFormed)
    {origin : List Text} {key : Text} {fallback : Template} (hf : fallback.isWellFormed)
    (h : ∀ k ∈ key :: fallback.keys, ∀ o ∈ origin, Relation.TransGen (Template.RefersTo v) o k) :
    Guarded v [ofReference v origin key fallback] := by
  intro s hs
  obtain rfl := List.mem_singleton.1 hs
  unfold ofReference
  cases hk : v key with
  | none => exact ⟨hf, fun k hmem => h k (List.mem_cons_of_mem _ hmem)⟩
  | some t =>
    refine ⟨hv key t hk, fun k hmem o ho => ?_⟩
    have hrefers : Template.RefersTo v key k := ⟨t, hk, hmem⟩
    rcases List.mem_cons.1 ho with rfl | ho
    · exact .single hrefers
    · exact (h key List.mem_cons_self o ho).tail hrefers

theorem guarded_ofTemplate {v : Definitions} (hv : ∀ k t, v k = some t → t.isWellFormed)
    {origin : List Text} {t : Template} (ht : t.isWellFormed)
    (h : ∀ k ∈ t.keys, ∀ o ∈ origin, Relation.TransGen (Template.RefersTo v) o k) :
    Guarded v (ofTemplate v origin t) := by
  have hcons : ∀ {s : Stretch} {l : List Stretch}, Guarded v [s] → Guarded v l →
      Guarded v (s :: l) := by
    intro s l hs hl u hu
    rcases List.mem_cons.1 hu with rfl | hu
    · exact hs u (by simp)
    · exact hl u hu
  induction t with
  | done => simp [ofTemplate, Guarded]
  | literal t u ih | escaped t u ih =>
    simp only [Template.isWellFormed, Bool.and_eq_true] at ht
    refine hcons (fun s hs => ?_) (ih ht.2 h)
    obtain rfl := List.mem_singleton.1 hs
    exact ⟨by simp [Template.isWellFormed, ht.1], by simp [Template.keys]⟩
  | reference key argument u ih =>
    simp only [Template.isWellFormed, Bool.and_eq_true] at ht
    refine hcons (guarded_ofReference hv rfl fun k hk => h k ?_)
      (ih ht.2 fun k hk => h k (List.mem_cons_of_mem _ hk))
    simp_all [Template.keys]
  | referenceOr key argument fallback u _ ih =>
    simp only [Template.isWellFormed, Bool.and_eq_true] at ht
    refine hcons (guarded_ofReference hv ht.1.1.1.2 fun k hk => h k ?_)
      (ih ht.2 fun k hk => h k (by simp [Template.keys, hk]))
    simp only [Template.keys, List.cons_append, List.mem_cons, List.mem_append] at hk ⊢
    tauto

theorem guarded_flatMap_unfold {v : Definitions} (hv : ∀ k t, v k = some t → t.isWellFormed)
    {l : List Stretch} (h : Guarded v l) : Guarded v (l.flatMap (unfold v)) := by
  intro u hu
  obtain ⟨s, hs, hmem⟩ := List.mem_flatMap.1 hu
  exact guarded_ofTemplate hv (h s hs).1 (h s hs).2 u hmem

end Stretch

namespace Expander.Follows

variable {x : Expander} {v : Definitions} (hx : x.Follows v)
include hx

/-- A pass over guarded stretches replaces the references of each of them. -/
theorem pass_spread (hacyclic : Template.Acyclic v) {l : List Stretch} (h : Stretch.Guarded v l) :
    x.pass (Stretch.spread l) = Stretch.spread (l.flatMap (Stretch.unfold v)) := by
  have key : ∀ before : Option Char, before ≠ some escapeChar →
      x.passFrom before (Stretch.spread l) = Stretch.spread (l.flatMap (Stretch.unfold v)) := by
    induction l with
    | nil => exact fun _ _ => rfl
    | cons s l ih =>
      intro before hbefore
      have hnot : ∀ k ∈ s.template.keys, k ∉ s.origin := fun k hk ho =>
        hacyclic k ((h s (by simp)).2 k hk k ho)
      obtain ⟨last, hlast, hs⟩ := hx.passFrom_template (h s (by simp)).1 hnot hbefore
        (Stretch.spread l)
      have hl := ih (fun u hu => h u (List.mem_cons_of_mem _ hu)) last hlast
      rw [Stretch.spread_cons, Stretch.glyphs, hs, hl]
      simp [Stretch.spread, Stretch.unfold]
  exact key none (by simp)

theorem chars_pass_ofText (hacyclic : Template.Acyclic v) {t : Template} (ht : t.isWellFormed) :
    Glyph.chars (x.pass (Glyph.ofText [] t.text)) = (t.unfold v).text := by
  have hguarded : Stretch.Guarded v [⟨[], t⟩] := by simp [Stretch.Guarded, ht]
  have h := hx.pass_spread hacyclic hguarded
  rw [show Stretch.spread [⟨[], t⟩] = Glyph.ofText [] t.text by
    simp [Stretch.spread, Stretch.glyphs]] at h
  rw [h, Stretch.chars_spread, Stretch.joined_flatMap_unfold, Stretch.joined, Stretch.joined,
    Template.append_done]

/-- A text that a pass leaves as it is has its value already: what a pass makes of a text does not
depend on the keys that it came out of, so that the text stays the same for ever. -/
theorem text_eq_of_settled (hacyclic : Template.Acyclic v)
    (hv : ∀ k t, v k = some t → t.isWellFormed) {t : Template} (ht : t.isWellFormed)
    (hsettled : (t.unfold v).text = t.text) {d : Nat} {out : Text}
    (h : Template.Evaluates v t d out) : t.text = out := by
  have hiterate : ∀ n, ((Template.unfold v)^[n] t).isWellFormed ∧
      ((Template.unfold v)^[n] t).text = t.text := by
    intro n
    induction n with
    | zero => exact ⟨ht, rfl⟩
    | succ n ih =>
      rw [Function.iterate_succ_apply']
      refine ⟨Template.isWellFormed_unfold hv ih.1, ?_⟩
      calc (Template.unfold v ((Template.unfold v)^[n] t)).text
          = Glyph.chars (x.pass (Glyph.ofText [] ((Template.unfold v)^[n] t).text)) :=
            (hx.chars_pass_ofText hacyclic ih.1).symm
        _ = Glyph.chars (x.pass (Glyph.ofText [] t.text)) := by rw [ih.2]
        _ = (t.unfold v).text := hx.chars_pass_ofText hacyclic ht
        _ = t.text := hsettled
  rw [← h.text_iterate, (hiterate d).2]

/-- As many passes as a template has levels evaluate it. -/
theorem chars_passes (hacyclic : Template.Acyclic v) (hv : ∀ k t, v k = some t → t.isWellFormed)
    {n : Nat} {l : List Stretch} (hl : Stretch.Guarded v l) {d : Nat} {out : Text}
    (h : Template.Evaluates v (Stretch.joined l) d out) (hd : d ≤ n) :
    Glyph.chars (x.passes n (Stretch.spread l)) = out := by
  induction n generalizing l d with
  | zero =>
    obtain rfl : d = 0 := by omega
    rw [passes, Stretch.chars_spread, h.text_eq]
  | succ n ih =>
    have hpass := hx.pass_spread hacyclic hl
    rw [passes]
    split
    · rename_i hsettled
      simp only [settled, beq_iff_eq, hpass, Stretch.chars_spread,
        Stretch.joined_flatMap_unfold] at hsettled
      rw [Stretch.chars_spread]
      exact hx.text_eq_of_settled hacyclic hv (Stretch.isWellFormed_joined hl) hsettled h
    · rw [hpass]
      refine ih (Stretch.guarded_flatMap_unfold hv hl) (d := d - 1) ?_ (by omega)
      rw [Stretch.joined_flatMap_unfold]
      exact h.unfold

theorem expand_text (hacyclic : Template.Acyclic v) (hv : ∀ k t, v k = some t → t.isWellFormed)
    (hmain : x.mainKey = none) {t : Template} (ht : t.isWellFormed) {d : Nat} {out : Text}
    (h : Template.Evaluates v t d out) (hd : d ≤ maxPasses) : x.expand t.text = out := by
  have hactive : x.isActive := by simp [isActive, hx.delimiters]
  have hstart : x.start t.text = Stretch.spread [⟨[], t⟩] := by
    simp [start, hmain, Stretch.spread, Stretch.glyphs]
  have hguarded : Stretch.Guarded v [⟨[], t⟩] := by simp [Stretch.Guarded, ht]
  rw [expand, if_pos hactive, hstart]
  refine hx.chars_passes hacyclic hv hguarded ?_ hd
  rwa [Stretch.joined, Stretch.joined, Template.append_done]

end Expander.Follows

namespace Store

/-- **Expansion evaluates templates.** In a store whose values are the texts of templates with
acyclic references, every template has one value and one depth; if it is no deeper than passes are
made, its text expands to its value. -/
theorem expand_template_text {s : Store} (hcase : s.policy.ignoreCase = false) {v : Definitions}
    (hs : ∀ k, s.get? k = (v k).map Template.text) (hv : ∀ k t, v k = some t → t.isWellFormed)
    (hacyclic : Template.Acyclic v) {t : Template} (ht : t.isWellFormed) :
    ∃ d out, Template.Evaluates v t d out ∧
      (∀ d' out', Template.Evaluates v t d' out' → d' = d ∧ out' = out) ∧
      (d ≤ Expander.maxPasses → s.expand t.text = out) := by
  have hfin : ∀ k, v k ≠ none → k ∈ s.keys := fun k hk =>
    mem_keys_of_get? hcase (by simpa [hs] using hk)
  obtain ⟨d, out, h⟩ := Template.exists_evaluates hfin hacyclic t
  have hx : (s.expander none).Follows v := ⟨rfl, rfl, fun r => hs r.key⟩
  exact ⟨d, out, h, fun d' out' h' => h.unique h', hx.expand_text hacyclic hv rfl ht h⟩

/-- The text `<${c:x=${a}}>`, where `a` stands for `${b}, you` and `b` for `hi`. -/
theorem expand_template_text_greeting :
    let v : Definitions := fun k =>
      if k = ['a'] then some (.reference ['b'] none (.literal ", you".toList .done))
      else if k = ['b'] then some (.literal "hi".toList .done)
      else none
    let s : Store :=
      { entries := [(['a'], "${b}, you".toList), (['b'], "hi".toList)] }
    let t : Template :=
      .literal ['<'] (.referenceOr ['c'] (some ['x']) (.reference ['a'] none .done)
        (.literal ['>'] .done))
    Template.Evaluates v t 3 "<hi, you>".toList ∧
      s.expand t.text = "<hi, you>".toList := by
  intro v s t
  have hs : ∀ k, s.get? k = (v k).map Template.text := by
    intro k
    by_cases ha : k = ['a']
    · subst ha; rfl
    · by_cases hb : k = ['b']
      · subst hb; rfl
      · have ha' : ¬ ['a'] = k := fun h => ha h.symm
        have hb' : ¬ ['b'] = k := fun h => hb h.symm
        simp [s, v, get?, entry?, Policy.position?, keys, List.findIdx?_cons, ha, hb, ha', hb']
  have hv : ∀ k t, v k = some t → t.isWellFormed := by
    intro k t hk
    simp only [v] at hk
    split_ifs at hk <;> obtain rfl := Option.some.inj hk <;> decide
  have hacyclic : Template.Acyclic v := by
    refine Template.acyclic_of_rank (fun k => if k = ['a'] then 1 else 0) ?_
    rintro k other ⟨u, hk, hmem⟩
    simp only [v] at hk
    split_ifs at hk <;> obtain rfl := Option.some.inj hk <;> simp_all [Template.keys]
  have hb : Template.Evaluates v (.literal "hi".toList .done) 0 "hi".toList := .literal .done
  have ha : Template.Evaluates v (.reference ['b'] none (.literal ", you".toList .done))
      1 ("hi".toList ++ ", you".toList) := .reference hb (.literal .done)
  have hfallback : Template.Evaluates v (.reference ['a'] none .done) 2
      ("hi, you".toList ++ []) := .reference ha .done
  have hrest : Template.Evaluates v (.literal ['>'] .done) 0 ['>'] := .literal .done
  have hvalue : Template.Evaluates v t 3 "<hi, you>".toList := by
    have hreference := @Template.Evaluates.referenceOr v ['c'] (some ['x']) _ _ _ _ _ _
      hfallback hrest
    exact .literal hreference
  obtain ⟨d, out, -, hunique, hexpand⟩ :=
    expand_template_text rfl hs hv hacyclic (by decide : t.isWellFormed)
  obtain ⟨rfl, rfl⟩ := hunique _ _ hvalue
  exact ⟨hvalue, hexpand (by decide)⟩

end Store

end PropertyConfig
