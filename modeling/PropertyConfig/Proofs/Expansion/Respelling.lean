import PropertyConfig.Proofs.Expansion.Resting

/-!
# Two spellings of the main key

Expansion holds references to the main key back, but only under the spelling that the main key is
given in. So two runs over one text, with the main key in two spellings, take the same way as long
as no pass comes across a reference to either spelling (`passes_map_respell`); the only difference
is the spelling in what the characters came out of. Such a reference, once there is one, is looked
up in one of the runs and never in the other (`key_ne_of_lookups`). Main statement:
`expand_reading_eq`.
-/

namespace PropertyConfig

namespace Expander

/-! ## The keys under another spelling -/

/-- The keys with one of them under another spelling. -/
def respell (a b : Text) : List Text → List Text := List.map fun key => if key = a then b else key

section
variable {a b key : Text} {origin : List Text}

theorem mem_respell_iff (ha : key ≠ a) (hb : key ≠ b) :
    key ∈ respell a b origin ↔ key ∈ origin := by
  rw [respell, List.mem_map]
  constructor
  · rintro ⟨k, hk, hkey⟩
    split at hkey
    · exact absurd hkey.symm hb
    · exact hkey ▸ hk
  · exact fun hk => ⟨key, hk, if_neg ha⟩

theorem not_mem_respell (hne : a ≠ b) : a ∉ respell a b origin := by
  rw [respell, List.mem_map]
  rintro ⟨k, -, hk⟩
  split at hk
  · exact hne hk.symm
  · contradiction

theorem respell_cons (ha : key ≠ a) : respell a b (key :: origin) = key :: respell a b origin := by
  rw [respell, List.map_cons, if_neg ha]

end

/-! ## Runs -/

/-- The references that `passes` comes across, in order. -/
def passesReferences (x : Expander) : (n : Nat) → List Glyph → List Reference
  | 0, _ => []
  | n + 1, text =>
    x.references text ++ if x.settled text then [] else passesReferences x n (x.pass text)

/-- The references that expansion comes across, also those that it holds back. -/
def expandReferences (x : Expander) (text : Text) : List Reference :=
  if x.isActive then x.passesReferences maxPasses (x.start text) else []

variable {x : Expander} {a b : Text} {n : Nat} {text : List Glyph}

theorem agrees_respell (hd : x.delimiters.opening ≠ [])
    (h : ∀ r ∈ x.references text, r.key ≠ a ∧ r.key ≠ b) :
    ∀ p ∈ pieces x.delimiters text, p.Agrees (respell a b) := by
  intro p hp
  have hkeys : ∀ r ∈ p.standing?, r.key ≠ a ∧ r.key ≠ b := fun r hr =>
    h r (List.mem_filterMap.2 ⟨p, hp, hr⟩)
  obtain ⟨e, -, hhead, hcases⟩ := cases_of_mem_pieces hd hp
  rcases hcases with ⟨written, rfl⟩ | ⟨written, r, rfl, hheld⟩ | ⟨written, r, rfl, hfree⟩
  · trivial
  · obtain ⟨ha, hb⟩ := hkeys r rfl
    intro g hg
    obtain rfl := Option.some.inj (hhead.symm.trans hg)
    exact (mem_respell_iff ha hb).2 hheld
  · obtain ⟨ha, hb⟩ := hkeys r rfl
    exact fun hmem => hfree ((mem_respell_iff ha hb).1 hmem)

theorem pass_map_respell (hd : x.delimiters.opening ≠ [])
    (h : ∀ r ∈ x.references text, r.key ≠ a ∧ r.key ≠ b) :
    x.pass (text.map (Glyph.relabel (respell a b))) =
        (x.pass text).map (Glyph.relabel (respell a b)) ∧
      x.lookups (text.map (Glyph.relabel (respell a b))) = x.lookups text ∧
      x.settled (text.map (Glyph.relabel (respell a b))) = x.settled text := by
  have hagrees := agrees_respell hd h
  have hkeys : ∀ r ∈ x.lookups text, ∀ origin,
      respell a b (r.key :: origin) = r.key :: respell a b origin :=
    fun r hr _ => respell_cons (h r (mem_references_of_mem_lookups hr)).1
  refine ⟨pass_map_relabel hd hagrees hkeys, lookups_map_relabel hd hagrees, ?_⟩
  rw [settled, settled, chars_pass_map_relabel hd hagrees, Glyph.chars_map_relabel]

/-- Runs over a text whose main key is given in two spellings differ in nothing but this spelling,
if they come across no reference to either of them. -/
theorem passes_map_respell (hd : x.delimiters.opening ≠ [])
    (h : ∀ r ∈ x.passesReferences n text, r.key ≠ a ∧ r.key ≠ b) :
    x.passes n (text.map (Glyph.relabel (respell a b))) =
        (x.passes n text).map (Glyph.relabel (respell a b)) ∧
      x.passesLookups n (text.map (Glyph.relabel (respell a b))) = x.passesLookups n text := by
  induction n generalizing text with
  | zero => exact ⟨rfl, rfl⟩
  | succ n ih =>
    rw [passesReferences] at h
    obtain ⟨hfirst, hrest⟩ := List.forall_mem_append.1 h
    obtain ⟨hpass, hlookups, hsettled⟩ := pass_map_respell hd hfirst
    rw [passes, passes, passesLookups, passesLookups, hsettled, hlookups, hpass]
    cases hs : x.settled text with
    | true => exact ⟨rfl, rfl⟩
    | false =>
      rw [hs] at hrest
      obtain ⟨hp, hl⟩ := ih hrest
      exact ⟨hp, congrArg _ hl⟩

/-- If the run under the one spelling never looks the other one up, and the other way round, neither
comes across a reference to one of them. -/
theorem key_ne_of_lookups (hd : x.delimiters.opening ≠ []) (hne : a ≠ b)
    (htext : ∀ g ∈ text, a ∈ g.origin ∧ b ∉ g.origin)
    (hb : ∀ r ∈ x.passesLookups n text, r.key ≠ b)
    (ha : ∀ r ∈ x.passesLookups n (text.map (Glyph.relabel (respell a b))), r.key ≠ a) :
    ∀ r ∈ x.passesReferences n text, r.key ≠ a ∧ r.key ≠ b := by
  induction n generalizing text with
  | zero => exact fun r hr => absurd hr List.not_mem_nil
  | succ n ih =>
    rw [passesLookups] at ha hb
    obtain ⟨hb, hbrest⟩ := List.forall_mem_append.1 hb
    obtain ⟨ha, harest⟩ := List.forall_mem_append.1 ha
    have hfirst : ∀ r ∈ x.references text, r.key ≠ a ∧ r.key ≠ b := by
      intro r hr
      constructor
      · -- what came out of the main key under the other spelling did not come out of `a`
        rintro rfl
        rw [← references_map_relabel x (respell r.key b)] at hr
        refine ha r (mem_lookups_of_mem_references hd hr fun e he => ?_) rfl
        obtain ⟨g, -, rfl⟩ := List.mem_map.1 he
        exact not_mem_respell hne
      · rintro rfl
        exact hb r (mem_lookups_of_mem_references hd hr fun e he => (htext e he).2) rfl
    obtain ⟨hpass, -, hsettled⟩ := pass_map_respell hd hfirst
    rw [passesReferences]
    refine List.forall_mem_append.2 ⟨hfirst, ?_⟩
    rw [hsettled, hpass] at harest
    cases hs : x.settled text with
    | true => exact fun r hr => absurd hr List.not_mem_nil
    | false =>
      rw [hs] at harest hbrest
      refine ih (fun g hg => ⟨?_, ?_⟩) hbrest harest
      · exact mem_origin_pass hd (fun e he => (htext e he).1) g hg
      · exact not_mem_origin_pass hd (fun e he => (htext e he).2) hb g hg

/-! ## Expansion within the value of a key -/

/-- Expansion within the value of a key. -/
def reading (x : Expander) (key : Text) : Expander := { x with mainKey := some key }

theorem passes_reading (x : Expander) (key : Text) (n : Nat) (text : List Glyph) :
    (x.reading key).passes n text = x.passes n text := by
  induction n generalizing text with
  | zero => rfl
  | succ n ih =>
    rw [passes, passes, ih]
    rfl

theorem passesLookups_reading (x : Expander) (key : Text) (n : Nat) (text : List Glyph) :
    (x.reading key).passesLookups n text = x.passesLookups n text := by
  induction n generalizing text with
  | zero => rfl
  | succ n ih =>
    rw [passesLookups, passesLookups, ih]
    rfl

theorem passesReferences_reading (x : Expander) (key : Text) (n : Nat) (text : List Glyph) :
    (x.reading key).passesReferences n text = x.passesReferences n text := by
  induction n generalizing text with
  | zero => rfl
  | succ n ih =>
    rw [passesReferences, passesReferences, ih]
    rfl

theorem start_reading (x : Expander) (a b : Text) (text : Text) :
    (x.reading b).start text =
      ((x.reading a).start text).map (Glyph.relabel (respell a b)) := by
  rw [start, start, Glyph.map_relabel_ofText]
  simp [reading, respell]

/-- Expansions within the value of a key in two spellings look up the same, in the same order,
exactly if they come across no reference to either spelling; and then they give the same text. -/
theorem expand_reading_eq (hactive : x.isActive) (hne : a ≠ b) (text : Text) :
    ((x.reading a).expandLookups text = (x.reading b).expandLookups text ↔
      ∀ r ∈ (x.reading a).expandReferences text, r.key ≠ a ∧ r.key ≠ b) ∧
    ((∀ r ∈ (x.reading a).expandReferences text, r.key ≠ a ∧ r.key ≠ b) →
      (x.reading a).expand text = (x.reading b).expand text) := by
  have hd := opening_ne_nil hactive
  have hboth : ∀ key, (x.reading key).isActive = true := fun _ => hactive
  have hstart : ∀ key, ∀ g ∈ (x.reading key).start text, g.origin = [key] := fun key g hg =>
    Glyph.origin_of_mem_ofText hg
  have hmain : ∀ key, ∀ g ∈ (x.reading key).start text, key ∈ g.origin := by
    intro key g hg
    simp [hstart key g hg]
  simp only [expandLookups, expandReferences, expand, hboth, if_true, passes_reading,
    passesLookups_reading, passesReferences_reading]
  rw [start_reading x a b]
  have hsame := @passes_map_respell x a b maxPasses ((x.reading a).start text) hd
  refine ⟨⟨fun heq => ?_, fun h => (hsame h).2.symm⟩, fun h => ?_⟩
  · have ha := key_ne_of_mem_passesLookups (n := maxPasses) hd (hmain a)
    have hb := key_ne_of_mem_passesLookups (n := maxPasses) hd (hmain b)
    rw [start_reading x a b] at hb
    refine key_ne_of_lookups hd hne (fun g hg => ?_) (heq ▸ hb) (heq ▸ ha)
    simp [hstart a g hg, hne.symm]
  · rw [(hsame h).1, Glyph.chars_map_relabel]

end Expander

end PropertyConfig
