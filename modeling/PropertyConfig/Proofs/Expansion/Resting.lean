import PropertyConfig.Proofs.Expansion.Origins
import PropertyConfig.Proofs.Expansion.Stabilization

/-!
# Texts that expansion leaves as they are

Expansion ends before its last pass if a pass leaves the text as it is (`RestsAfter`), and then it
gives this text (`expand_eq_of_restsAfter`). Expanded once more, the text is at rest from the start
unless that pass held a reference back: all of the text came out of the main key, whatever else it
came out of, so a reference that was free there is free when the text is taken to come out of the
main key alone (`agrees_start`). Main statement: `expand_expand`.
-/

namespace PropertyConfig

/-- A reference to a key that it came out of itself. -/
def Piece.isHeld : Piece → Bool
  | .held .. => true
  | _ => false

namespace Expander

/-- The next pass holds a reference back. -/
def holds (x : Expander) (text : List Glyph) : Bool := (pieces x.delimiters text).any Piece.isHeld

/-- Expansion ends with the pass behind the first `m` ones, which is the first to leave the text as
it is. -/
structure RestsAfter (x : Expander) (m : Nat) (text : Text) : Prop where
  lt_maxPasses : m < maxPasses
  settled : x.settled (x.after m text)
  unsettled : ∀ k < m, x.settled (x.after k text) = false

variable {x : Expander} {m n : Nat} {text : Text}

/-! ## Where passes end -/

theorem passes_of_settled {gs : List Glyph} (h : x.settled gs) (n : Nat) : x.passes n gs = gs := by
  cases n with
  | zero => rfl
  | succ n => rw [passes, if_pos h]

theorem passes_of_unsettled {gs : List Glyph} (h : x.settled gs = false) (n : Nat) :
    x.passes (n + 1) gs = x.passes n (x.pass gs) := by
  rw [passes, h]
  rfl

theorem passes_eq_iterate {gs : List Glyph} (hle : m ≤ n) (hsettled : x.settled (x.pass^[m] gs))
    (hunsettled : ∀ k < m, x.settled (x.pass^[k] gs) = false) :
    x.passes n gs = x.pass^[m] gs := by
  induction m generalizing n gs with
  | zero => exact passes_of_settled hsettled n
  | succ m ih =>
    obtain ⟨n, rfl⟩ := Nat.exists_eq_add_of_le' hle
    have hfirst : x.settled gs = false := hunsettled 0 (Nat.succ_pos m)
    rw [← Nat.add_assoc, passes_of_unsettled hfirst, Function.iterate_succ_apply]
    exact ih (by omega) hsettled fun k hk => hunsettled (k + 1) (by omega)

theorem RestsAfter.passes_eq (h : x.RestsAfter m text) (hle : m ≤ n) :
    x.passes n (x.start text) = x.after m text :=
  passes_eq_iterate hle h.settled h.unsettled

theorem expand_eq_of_restsAfter (hactive : x.isActive) (h : x.RestsAfter m text) :
    x.expand text = Glyph.chars (x.after m text) := by
  rw [expand, if_pos hactive, h.passes_eq h.lt_maxPasses.le]

theorem expand_of_settled (h : x.settled (x.start text)) : x.expand text = text := by
  unfold expand
  split
  · rw [passes_of_settled h, start, Glyph.chars_ofText]
  · rfl

/-! ## The text from the start -/

theorem opening_ne_nil (hactive : x.isActive) : x.delimiters.opening ≠ [] := by
  simp only [isActive, Bool.and_eq_true, bne_iff_ne] at hactive
  exact hactive.1

/-- Everything in a text under expansion came out of the main key. -/
theorem mainKey_mem_origin (hd : x.delimiters.opening ≠ []) {key : Text} (hkey : key ∈ x.mainKey)
    (n : Nat) (text : Text) : ∀ g ∈ x.after n text, key ∈ g.origin := by
  induction n with
  | zero =>
    intro g hg
    rw [Glyph.origin_of_mem_ofText hg]
    exact Option.mem_toList.2 hkey
  | succ n ih =>
    rw [after_succ]
    exact mem_origin_pass hd ih

theorem start_chars (gs : List Glyph) :
    x.start (Glyph.chars gs) = gs.map (Glyph.relabel fun _ => x.mainKey.toList) := by
  simp [start, Glyph.ofText, Glyph.chars, Glyph.relabel]

/-- A reference that was looked up would be looked up again, were it part of the text from the
start. -/
theorem agrees_start (hd : x.delimiters.opening ≠ []) (hfree : x.holds (x.after n text) = false) :
    ∀ p ∈ pieces x.delimiters (x.after n text), p.Agrees fun _ => x.mainKey.toList := by
  intro p hp
  have hnot : p.isHeld = false := by
    rw [holds, List.any_eq_false] at hfree
    simpa using hfree p hp
  obtain ⟨e, he, -, hcases⟩ := cases_of_mem_pieces hd hp
  rcases hcases with ⟨written, rfl⟩ | ⟨written, r, rfl, -⟩ | ⟨written, r, rfl, hkey⟩
  · trivial
  · cases hnot
  · intro hmain
    exact hkey (mainKey_mem_origin hd (Option.mem_toList.1 hmain) n text e he)

/-- **Expanding an expanded text changes nothing.** Whatever keys are looked up in, however
references are delimited and values are filtered, and whatever the main key is: if expansion ends
because a pass left the text as it was, and this pass held no reference back, then the expanded text
expands to itself. Earlier passes may have held references back. -/
theorem expand_expand (h : x.RestsAfter m text) (hfree : x.holds (x.after m text) = false) :
    x.expand (x.expand text) = x.expand text := by
  by_cases hactive : x.isActive
  · have hd := opening_ne_nil hactive
    have hsettled := h.settled
    rw [settled, beq_iff_eq] at hsettled
    rw [expand_eq_of_restsAfter hactive h]
    refine expand_of_settled ?_
    rw [settled, beq_iff_eq, start_chars, chars_pass_map_relabel hd (agrees_start hd hfree),
      hsettled, Glyph.chars_map_relabel]
  · have hid : ∀ t, x.expand t = t := fun t => if_neg hactive
    rw [hid, hid]

/-- In the value of `m`, a fallback leads to `C`. What the text expands to has a reference that is
meant literally. -/
theorem expand_expand_nested :
    let x := ofValues [(['a'], "${b=${c}}".toList), (['c'], ['C'])] id (some ['m'])
    let text := "<${a}\\${b}>".toList
    x.RestsAfter 3 text ∧ x.holds (x.after 3 text) = false ∧
      x.expand text = "<C\\${b}>".toList ∧
      x.expand (x.expand text) = x.expand text := by
  intro x text
  have hrests : x.RestsAfter 3 text := ⟨by decide, by decide +kernel, by decide +kernel⟩
  have hfree : x.holds (x.after 3 text) = false := by decide +kernel
  exact ⟨hrests, hfree, by decide +kernel, expand_expand hrests hfree⟩

/-- Where a reference is held back in the end, as that to `k` in the value `${k}x` of `k`, the text
can change once more. -/
example :
    let x := ofValues [(['k'], "${k}x".toList)] id none
    x.expand "${k}".toList = "${k}x".toList ∧
      x.expand "${k}x".toList = "${k}xx".toList :=
  by decide +kernel

end Expander

end PropertyConfig
