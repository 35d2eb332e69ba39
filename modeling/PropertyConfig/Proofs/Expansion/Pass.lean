import PropertyConfig.Expansion.Expander
import PropertyConfig.Proofs.Expansion.Pieces

/-!
# A pass, from left to right

With the usual delimiters a pass goes over a text character by character: what starts no reference
is kept (`passFrom_cons`), an escaped opening is kept (`passFrom_escaped`), and a reference is
replaced as a whole (`passFrom_reference`). Where a reference ends is said by `Balanced`: a text
whose openings are all closed within it hides no end.
-/

namespace PropertyConfig

/-! ## Where a reference ends -/

namespace Delimiters

/-- Every opening delimiter of the text has its closing one, and none is closed before. -/
def Balanced (t : Text) : Prop :=
  ∀ depth rest, bodyLengthFrom? {} 0 depth (t ++ rest) =
    (bodyLengthFrom? {} 0 depth rest).map (· + t.length)

/-- A character that has no meaning in references. -/
def isPlainChar (c : Char) : Bool := !(c = '$' || c = '\x7b' || c = '\x7d' || c = escapeChar)

theorem balanced_nil : Balanced [] := fun _ _ => by simp

theorem Balanced.append {a b : Text} (ha : Balanced a) (hb : Balanced b) : Balanced (a ++ b) := by
  intro depth rest
  rw [List.append_assoc, ha, hb, Option.map_map]
  congr 1
  funext n
  simp only [Function.comp_apply, List.length_append]
  omega

theorem balanced_singleton {c : Char} (h : isPlainChar c) : Balanced [c] := by
  intro depth rest
  simp only [isPlainChar, Bool.not_eq_true', Bool.or_eq_false_iff, decide_eq_false_iff_not] at h
  obtain ⟨⟨⟨hopen, _⟩, hclose⟩, hescape⟩ := h
  simp [bodyLengthFrom?, hescape, Ne.symm hopen, Ne.symm hclose]

theorem balanced_of_plain {t : Text} (h : t.all isPlainChar) : Balanced t := by
  induction t with
  | nil => exact balanced_nil
  | cons c t ih =>
    simp only [List.all_cons, Bool.and_eq_true] at h
    exact (balanced_singleton h.1).append (ih h.2)

theorem Balanced.reference {t : Text} (h : Balanced t) :
    Balanced ('$' :: '\x7b' :: t ++ ['\x7d']) := by
  intro depth rest
  have hopen : bodyLengthFrom? {} 0 depth ('$' :: '\x7b' :: (t ++ '\x7d' :: rest)) =
      ((bodyLengthFrom? {} 0 (depth + 1) (t ++ '\x7d' :: rest)).map (· + 1)).map (· + 1) := by
    simp [bodyLengthFrom?, escapeChar]
  have hclose : bodyLengthFrom? {} 0 (depth + 1) ('\x7d' :: rest) =
      (bodyLengthFrom? {} 0 depth rest).map (· + 1) := by
    simp [bodyLengthFrom?, escapeChar]
  have hlen : ('$' :: '\x7b' :: t ++ ['\x7d']).length = t.length + 3 := by simp
  rw [show '$' :: '\x7b' :: t ++ ['\x7d'] ++ rest = '$' :: '\x7b' :: (t ++ '\x7d' :: rest) by simp,
    hopen, h, hclose, hlen, Option.map_map, Option.map_map, Option.map_map]
  congr 1
  funext n
  simp only [Function.comp_apply]
  omega

/-- A balanced text is the whole body of the reference that ends behind it. -/
theorem Balanced.bodyLength? {t : Text} (h : Balanced t) (rest : Text) :
    bodyLength? {} (t ++ '\x7d' :: rest) = some t.length := by
  rw [Delimiters.bodyLength?, h]
  simp [bodyLengthFrom?, escapeChar]

/-- So is a text without delimiters and escapes, although it may end with the first character of an
opening. -/
theorem bodyLength?_of_undelimited {t : Text} (hopen : ¬ ['$', '\x7b'] <:+: t)
    (hchars : ∀ c ∈ t, c ≠ '\x7d' ∧ c ≠ escapeChar) (rest : Text) :
    bodyLength? {} (t ++ '\x7d' :: rest) = some t.length := by
  rw [Delimiters.bodyLength?]
  induction t with
  | nil => simp [bodyLengthFrom?, escapeChar]
  | cons c t ih =>
    obtain ⟨⟨hclose, hescape⟩, htail⟩ := List.forall_mem_cons.1 hchars
    have hstart : ['$', '\x7b'].isPrefixOf (c :: (t ++ '\x7d' :: rest)) = false := by
      rw [Bool.eq_false_iff, ne_eq, List.isPrefixOf_iff_prefix]
      intro hlead
      cases t with
      | nil => simp at hlead
      | cons d t =>
        obtain ⟨rfl, rfl⟩ : '$' = c ∧ '\x7b' = d := by simpa using hlead
        exact hopen ⟨[], t, rfl⟩
    have ih := ih (fun hmem => hopen (hmem.trans (List.suffix_cons c t).isInfix)) htail
    rw [List.cons_append, bodyLengthFrom?, if_neg hescape, if_neg (by simp [hstart]),
      if_neg (by simpa using hclose.symm), ih]
    rfl

end Delimiters

/-! ## Going over a text -/

theorem Glyph.startsWith_opening_cons {g : Glyph} {t : List Glyph} :
    Glyph.startsWith ['$', '\x7b'] (g :: t) =
      (g.char == '$' && (t.head?.map Glyph.char == some '\x7b')) := by
  cases t <;> simp [Glyph.startsWith, Glyph.chars]

namespace Expander

/-- The text after one more pass, where `before` is the character before it. -/
def passFrom (x : Expander) (before : Option Char) (text : List Glyph) : List Glyph :=
  (piecesFrom x.delimiters before 0 text).flatMap x.substitute

theorem pass_eq_passFrom (x : Expander) (text : List Glyph) :
    x.pass text = x.passFrom none text := rfl

@[simp] theorem passFrom_nil (x : Expander) (before : Option Char) : x.passFrom before [] = [] :=
  rfl

section
variable {x : Expander} (hx : x.delimiters = {})
include hx

/-- What starts no reference is kept. -/
theorem passFrom_cons (before : Option Char) {g : Glyph} {t : List Glyph}
    (h : Glyph.startsWith ['$', '\x7b'] (g :: t) = false) :
    x.passFrom before (g :: t) = g :: x.passFrom (some g.char) t := by
  have hfirst : Piece.first {} before g t = .kept [g] := by simp [Piece.first, h]
  simp [passFrom, hx, piecesFrom, hfirst, Piece.written, substitute]

theorem passFrom_escaped (o₁ o₂ : List Text) (t : List Glyph) :
    x.passFrom (some escapeChar) (⟨'$', o₁⟩ :: ⟨'\x7b', o₂⟩ :: t) =
      ⟨'$', o₁⟩ :: ⟨'\x7b', o₂⟩ :: x.passFrom (some '\x7b') t := by
  simp [passFrom, hx, piecesFrom, Piece.first, Glyph.startsWith_opening_cons, Piece.written,
    substitute]

/-- Plain characters are kept. -/
theorem passFrom_plain {t : Text} (h : t.all Delimiters.isPlainChar) (origin : List Text)
    (before : Option Char) (rest : List Glyph) :
    x.passFrom before (Glyph.ofText origin t ++ rest) =
      Glyph.ofText origin t ++ x.passFrom (t.getLast?.or before) rest := by
  induction t generalizing before with
  | nil => simp [Glyph.ofText]
  | cons c t ih =>
    simp only [List.all_cons, Bool.and_eq_true] at h
    have hc : c ≠ '$' := by rintro rfl; exact absurd h.1 (by decide)
    have hstart : Glyph.startsWith ['$', '\x7b']
        (⟨c, origin⟩ :: (Glyph.ofText origin t ++ rest)) = false := by
      simp [Glyph.startsWith_opening_cons, hc]
    have hcons : Glyph.ofText origin (c :: t) = ⟨c, origin⟩ :: Glyph.ofText origin t := rfl
    rw [hcons, List.cons_append, passFrom_cons hx before hstart, ih h.2, List.getLast?_cons]
    cases t.getLast? <;> rfl

/-- A reference is taken as a whole. -/
theorem passFrom_of_bodyLength? {before : Option Char} (hbefore : before ≠ some escapeChar)
    (o₁ o₂ o₃ : List Text) {body rest : List Glyph}
    (hbody : Delimiters.bodyLength? {} (Glyph.chars body ++ '\x7d' :: Glyph.chars rest) =
      some body.length) :
    let written := ⟨'$', o₁⟩ :: ⟨'\x7b', o₂⟩ :: (body ++ [⟨'\x7d', o₃⟩])
    let r := Reference.read {} (Glyph.chars body)
    x.passFrom before (written ++ rest) =
      x.substitute (if r.key ∈ o₁ then .held written r else .reference written r o₁) ++
        x.passFrom (some '\x7d') rest := by
  intro written r
  have hopening : Glyph.chars [⟨'$', o₁⟩, ⟨'\x7b', o₂⟩] = ({} : Delimiters).opening := rfl
  have hclosing : Glyph.chars [⟨'\x7d', o₃⟩] = ({} : Delimiters).closing := rfl
  have hbody' : ({} : Delimiters).bodyLength? (Glyph.chars (body ++ ([⟨'\x7d', o₃⟩] ++ rest))) =
      some body.length := by
    simpa [Glyph.chars] using hbody
  have horigin : ∀ g ∈ ([⟨'$', o₁⟩, ⟨'\x7b', o₂⟩] : List Glyph).head?, g.origin = o₁ := by simp
  have hlast : (Glyph.chars written).getLast? = some '\x7d' := by
    simp [written, Glyph.chars, List.getLast?_cons]
  have hpieces : piecesFrom {} before 0 (written ++ rest) =
      (if r.key ∈ o₁ then .held written r else .reference written r o₁) ::
        piecesFrom {} (Glyph.chars written).getLast? 0 rest :=
    piecesFrom_closed hopening ⟨by decide, by decide⟩ hbefore horigin hclosing hbody' []
  rw [passFrom, passFrom, hx, hpieces, List.flatMap_cons, hlast]

theorem passFrom_reference {before : Option Char} (hbefore : before ≠ some escapeChar)
    (o₁ o₂ o₃ : List Text) {body : List Glyph} (hbody : Delimiters.Balanced (Glyph.chars body))
    (rest : List Glyph) :
    let written := ⟨'$', o₁⟩ :: ⟨'\x7b', o₂⟩ :: (body ++ [⟨'\x7d', o₃⟩])
    let r := Reference.read {} (Glyph.chars body)
    x.passFrom before (written ++ rest) =
      x.substitute (if r.key ∈ o₁ then .held written r else .reference written r o₁) ++
        x.passFrom (some '\x7d') rest :=
  passFrom_of_bodyLength? hx hbefore o₁ o₂ o₃ (by simpa [Glyph.chars] using hbody.bodyLength? _)

end

end Expander

end PropertyConfig
