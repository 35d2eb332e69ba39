import PropertyConfig.Proofs.Expansion.Pass
import PropertyConfig.Proofs.Text.Trimming

/-!
# References in a text

A reference that a pass replaces is a stretch of the text; it starts with `$`, it comes out of the
keys that this character came out of, and its fallback is part of what stands behind it
(`exists_of_reference_mem`). So a glyph after a pass was there before, or it came in with the value
or with the fallback of such a reference (`mem_pass`). A text that is no more than the reference to
a key becomes the value of the key (`pass_referenceTo`).
-/

namespace PropertyConfig

namespace Delimiters

theorem cut?_sublist {mark t a b : Text} (h : cut? mark t = some (a, b)) : b.Sublist t := by
  unfold cut? at h
  split at h
  · simp at h
  · rw [Text.cut?_eq_some h]
    exact List.sublist_append_right _ _

end Delimiters

theorem Reference.fallback_sublist (d : Delimiters) (body : Text) :
    (Reference.read d body).fallback.Sublist body := by
  unfold Reference.read
  simp only []
  cases hcut : Delimiters.cut? d.fallback (Text.trim body) with
  | none => split <;> exact List.nil_sublist _
  | some parts =>
    have hsub : parts.2.Sublist body :=
      (Delimiters.cut?_sublist hcut).trans (Text.trim_sublist body)
    split <;> exact hsub

namespace Piece

/-- What a reference at the front of a text is made of. -/
theorem first_eq_reference {before : Option Char} {g : Glyph} {t written : List Glyph}
    {r : Reference} {origin : List Text} (h : first {} before g t = .reference written r origin) :
    g = ⟨'$', origin⟩ ∧ r.key ∉ origin ∧
      ∃ n, written = g :: t.take n ∧ r.fallback.Sublist (Glyph.chars (t.take n)) := by
  unfold first opened at h
  simp only [Glyph.startsWith_opening_cons] at h
  split at h
  · rename_i hopening
    simp only [Bool.and_eq_true, beq_iff_eq] at hopening
    split at h
    · simp at h
    · split at h
      · simp at h
      · rename_i n _
        split at h
        · simp at h
        · rename_i hkey
          simp only [reference.injEq] at h
          obtain ⟨hwritten, rfl, rfl⟩ := h
          refine ⟨by rw [← hopening.1], hkey, n + 2, ?_, ?_⟩
          · rw [← hwritten,
              show ['$', '\x7b'].length + n + ['\x7d'].length = n + 2 + 1 by simp; omega,
              List.take_succ_cons]
          · refine (Reference.fallback_sublist _ _).trans ?_
            have hbody : ((g :: t).drop ['$', '\x7b'].length).take n = (t.take (n + 1)).drop 1 := by
              simp [List.drop_take]
            rw [hbody]
            refine List.Sublist.map _ ((List.drop_sublist _ _).trans ?_)
            exact (List.take_prefix_take_left (by omega)).sublist
  · simp at h

end Piece

theorem mem_piecesFrom {d : Delimiters} {before : Option Char} {skip : Nat} {text : List Glyph}
    {p : Piece} (h : p ∈ piecesFrom d before skip text) :
    ∃ before' g t, g :: t <:+ text ∧ p = Piece.first d before' g t := by
  induction text generalizing before skip with
  | nil => simp [piecesFrom] at h
  | cons g t ih =>
    have hsuffix : t <:+ g :: t := List.suffix_cons g t
    cases skip with
    | succ skip =>
      obtain ⟨before', g', t', ht', hp⟩ := ih h
      exact ⟨before', g', t', ht'.trans hsuffix, hp⟩
    | zero =>
      rcases List.mem_cons.1 h with rfl | h
      · exact ⟨before, g, t, List.suffix_refl _, rfl⟩
      · obtain ⟨before', g', t', ht', hp⟩ := ih h
        exact ⟨before', g', t', ht'.trans hsuffix, hp⟩

/-- What a reference is made of. -/
theorem exists_of_reference_mem {text written : List Glyph} {r : Reference} {origin : List Text}
    (h : .reference written r origin ∈ pieces {} text) :
    ∃ rest, written = ⟨'$', origin⟩ :: rest ∧ written ⊆ text ∧ r.key ∉ origin ∧
      r.fallback.Sublist (Glyph.chars rest) := by
  obtain ⟨before, g, t, hsuffix, hfirst⟩ := mem_piecesFrom h
  obtain ⟨rfl, hkey, n, rfl, hfallback⟩ := Piece.first_eq_reference hfirst.symm
  refine ⟨t.take n, rfl, ?_, hkey, hfallback⟩
  intro e he
  refine hsuffix.subset ?_
  rcases List.mem_cons.1 he with rfl | he
  · exact List.mem_cons_self
  · exact List.mem_cons_of_mem _ (List.mem_of_mem_take he)

namespace Expander

/-- Where a glyph was before a pass. -/
theorem mem_pass {x : Expander} (hx : x.delimiters = {}) {text : List Glyph} {g : Glyph}
    (h : g ∈ x.pass text) :
    g ∈ text ∨ ∃ written r origin, .reference written r origin ∈ pieces {} text ∧
      g.origin = if (x.lookup r).isSome then r.key :: origin else origin := by
  obtain ⟨p, hp, hg⟩ := List.mem_flatMap.1 h
  rw [hx] at hp
  have hkept : ∀ written, p.written = written → g ∈ written → g ∈ text := by
    rintro written rfl hmem
    rw [← pieces_written (d := {}) (by simp) text]
    exact List.mem_flatMap.2 ⟨p, hp, hmem⟩
  cases p with
  | kept written => exact .inl (hkept _ rfl hg)
  | held written r => exact .inl (hkept _ rfl hg)
  | reference written r origin =>
    refine .inr ⟨written, r, origin, hp, ?_⟩
    rw [substitute] at hg
    cases hr : x.lookup r with
    | none =>
      simp only [hr, Glyph.ofText, List.mem_map] at hg
      obtain ⟨c, -, rfl⟩ := hg
      simp
    | some value =>
      simp only [hr, Glyph.ofText, List.mem_map] at hg
      obtain ⟨c, -, rfl⟩ := hg
      simp

end Expander

/-! ## References without an argument or a fallback -/

/-- A key that a reference names by no more than its spelling. -/
structure Referable (key : Text) : Prop where
  trimmed : Text.trim key = key
  chars : ∀ c ∈ key, c ≠ '=' ∧ c ≠ ':' ∧ c ≠ '\x7d' ∧ c ≠ escapeChar
  opening : ¬ ['$', '\x7b'] <:+: key

/-- The reference to a key, as it is written. -/
def referenceTo (key : Text) : Text := '$' :: '\x7b' :: key ++ ['\x7d']

theorem Referable.read_eq {key : Text} (h : Referable key) :
    Reference.read {} key = ⟨key, none, []⟩ := by
  have hfallback : Delimiters.cut? ['='] key = none :=
    Text.cut?_eq_none fun hmem => (h.chars _ hmem).1 rfl
  have hargument : Delimiters.cut? [':'] key = none :=
    Text.cut?_eq_none fun hmem => (h.chars _ hmem).2.1 rfl
  simp only [Reference.read, h.trimmed, hfallback, hargument]

namespace Expander

variable {x : Expander} {key : Text}

/-- Within the value of its key the reference stays as it is. -/
theorem pass_referenceTo (hx : x.delimiters = {}) (hkey : Referable key) (origin : List Text) :
    x.pass (Glyph.ofText origin (referenceTo key)) =
      if key ∈ origin then Glyph.ofText origin (referenceTo key)
      else match x.lookup ⟨key, none, []⟩ with
        | some value => Glyph.ofText (key :: origin) (x.filter value)
        | none => [] := by
  have hwritten : Glyph.ofText origin (referenceTo key) =
      ⟨'$', origin⟩ :: ⟨'\x7b', origin⟩ :: (Glyph.ofText origin key ++ [⟨'\x7d', origin⟩]) := by
    simp [referenceTo, Glyph.ofText]
  have hbody : Delimiters.bodyLength? {} (Glyph.chars (Glyph.ofText origin key) ++ ['\x7d']) =
      some (Glyph.ofText origin key).length := by
    have hlength := Delimiters.bodyLength?_of_undelimited hkey.opening
      (fun c hc => (hkey.chars c hc).2.2) []
    rwa [Glyph.chars_ofText, Glyph.ofText, List.length_map]
  have hstart : (none : Option Char) ≠ some escapeChar := by simp
  have hpass := passFrom_of_bodyLength? hx hstart origin origin origin
    (show Delimiters.bodyLength? {} (_ ++ '\x7d' :: Glyph.chars []) = _ from hbody)
  simp only [Glyph.chars_ofText, hkey.read_eq, List.append_nil, passFrom_nil] at hpass
  rw [pass_eq_passFrom, hwritten, hpass]
  split
  · rfl
  · rw [substitute]
    cases x.lookup ⟨key, none, []⟩ <;> rfl

end Expander

end PropertyConfig
