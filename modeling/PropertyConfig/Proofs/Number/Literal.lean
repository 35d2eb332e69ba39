import PropertyConfig.Proofs.Number.Digits
import PropertyConfig.Proofs.Text.Prefixes
import PropertyConfig.Proofs.Text.Trimming

/-!
# The literal in front of a text

What a literal looks like is said of its parts (`Literal.IsFormed`), and a text is a literal if it
is written with such parts (`IsLiteral`). The scanner takes its parts off one after the other: the
sign, the digits, the point with more digits, the exponent. It takes back a point or a marker
without digits behind it. What it finds is a literal in front of the text (`Literal.scan?_eq_some`),
and any other literal in front of the text stops within one of the parts that were found
(`Literal.IsFormed.exists_scan?`). So it is the longest one (`Literal.isLongestPrefix_of_scan?`).
-/

namespace PropertyConfig

/-- One of two markers, a sign or none, and digits. -/
structure Exponent.IsFormed (e : Exponent) : Prop where
  marker_eq : e.marker = 'e' ∨ e.marker = 'E'
  sign_mem : e.sign ∈ signs
  digits_ne_nil : e.digits ≠ []
  isDigit_of_mem : ∀ c ∈ e.digits, c.isDigit

/-- A sign or none, digits with or without a point and more digits behind them, or a point and
digits behind it, and an exponent or none. -/
structure Literal.IsFormed (l : Literal) : Prop where
  sign_mem : l.sign ∈ signs
  isDigit_of_mem_whole : ∀ c ∈ l.whole, c.isDigit
  isDigit_of_mem_fraction : ∀ f ∈ l.fraction, ∀ c ∈ f, c.isDigit
  digits_ne_nil : l.whole ≠ [] ∨ l.fraction.getD [] ≠ []
  exponent_isFormed : ∀ e ∈ l.exponent, e.IsFormed

/-- The text is written as a literal is. -/
def IsLiteral (t : Text) : Prop := ∃ l : Literal, l.IsFormed ∧ l.written = t

/-! ## Digits in front of a text -/

theorem leadingDigits_append_afterDigits (t : Text) : leadingDigits t ++ afterDigits t = t :=
  List.takeWhile_append_dropWhile

theorem isDigit_of_mem_leadingDigits {t : Text} : ∀ c ∈ leadingDigits t, c.isDigit :=
  fun _ hc => List.mem_takeWhile_imp hc

section
variable {digits tail t : Text} (hdigits : ∀ c ∈ digits, c.isDigit)
  (htail : ∀ c ∈ tail.head?, c.isDigit = false)
include hdigits htail

theorem leadingDigits_append : leadingDigits (digits ++ tail) = digits :=
  Text.takeWhile_append_of_head hdigits htail

theorem afterDigits_append : afterDigits (digits ++ tail) = tail :=
  Text.dropWhile_append_of_head hdigits htail

/-- Digits in front of a text are all that it has in front, or nothing is asked behind them. -/
theorem digits_cases (h : digits ++ tail <+: t) :
    (digits = leadingDigits t ∧ tail <+: afterDigits t) ∨
      (tail = [] ∧ digits <+: leadingDigits t) := by
  obtain ⟨behind, rfl⟩ := h
  cases tail with
  | nil =>
    refine .inr ⟨rfl, ?_⟩
    rw [List.append_nil, leadingDigits, List.takeWhile_append_of_pos hdigits]
    exact List.prefix_append _ _
  | cons c tail =>
    have hhead : ∀ d ∈ (c :: tail ++ behind).head?, d.isDigit = false := htail
    rw [List.append_assoc, leadingDigits_append hdigits hhead, afterDigits_append hdigits hhead]
    exact .inl ⟨rfl, List.prefix_append _ _⟩

end

/-! ## The exponent -/

namespace Exponent

variable {e : Exponent} {t : Text}

theorem scan_cons (c : Char) {sign digits : Text} (hsign : splitSign t = (sign, digits)) :
    scan (c :: t) =
      if (c = 'e' ∨ c = 'E') ∧ leadingDigits digits ≠ [] then
        (some ⟨c, sign, leadingDigits digits⟩, afterDigits digits)
      else (none, c :: t) := by
  simp only [scan, hsign]

theorem written_append_scan (t : Text) :
    (scan t).1.elim [] written ++ (scan t).2 = t ∧ ∀ e ∈ (scan t).1, e.IsFormed := by
  cases t with
  | nil => exact ⟨rfl, by simp [scan]⟩
  | cons c t =>
    obtain ⟨sign, hsign, digits, rfl, hsplit⟩ := exists_splitSign t
    rw [scan_cons c hsplit]
    split
    · next h =>
      refine ⟨?_, ?_⟩
      · simp only [Option.elim_some, written, List.cons_append, List.append_assoc,
          leadingDigits_append_afterDigits]
      · rintro _ ⟨⟩
        exact ⟨h.1, hsign, h.2, isDigit_of_mem_leadingDigits⟩
    · exact ⟨rfl, by simp⟩

namespace IsFormed

/-- Neither a digit nor a point stands in front. -/
theorem head (he : e.IsFormed) : ∀ c ∈ e.written.head?, c.isDigit = false ∧ c ≠ '.' := by
  rintro _ ⟨⟩
  rcases he.marker_eq with hmarker | hmarker <;> rw [hmarker] <;> decide

/-- The scanner finds the same marker and the same sign, and no fewer digits. -/
theorem scan_append (he : e.IsFormed) (behind : Text) :
    scan (e.written ++ behind) =
      (some { e with digits := leadingDigits (e.digits ++ behind) },
        afterDigits (e.digits ++ behind)) := by
  have hlead : e.digits <+: leadingDigits (e.digits ++ behind) := by
    rw [leadingDigits, List.takeWhile_append_of_pos he.isDigit_of_mem]
    exact List.prefix_append _ _
  have hsplit : splitSign (e.sign ++ (e.digits ++ behind)) = (e.sign, e.digits ++ behind) := by
    refine splitSign_append he.sign_mem fun c hc => ?_
    rw [List.head?_append_of_ne_nil _ he.digits_ne_nil] at hc
    exact isHexDigit_of_isDigit (he.isDigit_of_mem c (List.mem_of_mem_head? hc))
  rw [written, List.cons_append, List.append_assoc, scan_cons e.marker hsplit,
    if_pos ⟨he.marker_eq, fun hnil => he.digits_ne_nil (List.prefix_nil.1 (hnil ▸ hlead))⟩]

theorem exists_scan (he : e.IsFormed) (h : e.written <+: t) :
    ∃ found, (scan t).1 = some found ∧ e.written <+: found.written := by
  obtain ⟨behind, rfl⟩ := h
  rw [he.scan_append]
  refine ⟨_, rfl, ?_⟩
  simp only [written, List.prefix_append_right_inj, List.cons_prefix_cons, true_and]
  rw [leadingDigits, List.takeWhile_append_of_pos he.isDigit_of_mem]
  exact List.prefix_append _ _

theorem scan_written (he : e.IsFormed) : scan e.written = (some e, []) := by
  have h := he.scan_append []
  have htail : ∀ c ∈ ([] : Text).head?, c.isDigit = false := by simp
  rwa [leadingDigits_append he.isDigit_of_mem htail, afterDigits_append he.isDigit_of_mem htail,
    List.append_nil] at h

end IsFormed

end Exponent

namespace Literal

variable {l : Literal} {t rest : Text}

/-! ## The point and the digits behind it -/

def fractionText (fraction : Option Text) : Text := fraction.elim [] ('.' :: ·)

theorem scanFraction_point (whole t : Text) :
    scanFraction whole ('.' :: t) =
      if whole = [] ∧ leadingDigits t = [] then (none, '.' :: t)
      else (some (leadingDigits t), afterDigits t) := rfl

theorem scanFraction_of_head (whole : Text) (h : ∀ c ∈ t.head?, c ≠ '.') :
    scanFraction whole t = (none, t) := by
  unfold scanFraction
  split
  · exact absurd rfl (h '.' rfl)
  · rfl

theorem fractionText_append_scanFraction (whole t : Text) :
    fractionText (scanFraction whole t).1 ++ (scanFraction whole t).2 = t ∧
      ∀ f ∈ (scanFraction whole t).1,
        (∀ c ∈ f, c.isDigit) ∧ (whole ≠ [] ∨ f ≠ []) := by
  by_cases hpoint : ∀ c ∈ t.head?, c ≠ '.'
  · rw [scanFraction_of_head whole hpoint]
    exact ⟨rfl, by simp⟩
  · obtain ⟨t, rfl⟩ : ∃ u, t = '.' :: u := by
      cases t with
      | nil => simp at hpoint
      | cons c t =>
        obtain rfl : c = '.' := by simpa using hpoint
        exact ⟨t, rfl⟩
    rw [scanFraction_point]
    split
    · exact ⟨rfl, by simp⟩
    · next h =>
      refine ⟨congrArg _ (leadingDigits_append_afterDigits t), ?_⟩
      rintro _ ⟨⟩
      exact ⟨isDigit_of_mem_leadingDigits, by rwa [not_and_or] at h⟩

/-- A point with digits in front of a text, and what is asked behind them: the scanner finds the
same, or it finds no less and nothing is asked behind. -/
theorem scanFraction_cases {whole tail : Text} {fraction : Option Text}
    (hdigits : ∀ f ∈ fraction, ∀ c ∈ f, c.isDigit)
    (hsome : whole ≠ [] ∨ fraction.getD [] ≠ [])
    (htail : ∀ c ∈ tail.head?, c.isDigit = false ∧ c ≠ '.')
    (h : fractionText fraction ++ tail <+: t) :
    (fraction = (scanFraction whole t).1 ∧ tail <+: (scanFraction whole t).2) ∨
      (tail = [] ∧ fractionText fraction <+: fractionText (scanFraction whole t).1) := by
  cases fraction with
  | none =>
    cases tail with
    | nil => exact .inr ⟨rfl, List.nil_prefix⟩
    | cons c tail =>
      obtain ⟨behind, rfl⟩ := h
      have hhead : ∀ d ∈ (c :: tail ++ behind).head?, d ≠ '.' := fun d hd => (htail d hd).2
      refine .inl ?_
      rw [fractionText, Option.elim_none, List.nil_append, scanFraction_of_head whole hhead]
      exact ⟨rfl, List.prefix_append _ _⟩
  | some f =>
    obtain ⟨u, rfl⟩ : ∃ u, t = '.' :: u := by
      obtain ⟨behind, rfl⟩ := h
      exact ⟨f ++ tail ++ behind, rfl⟩
    have h : f ++ tail <+: u := (List.cons_prefix_cons.1 h).2
    have hcases := digits_cases (hdigits f rfl) (fun c hc => (htail c hc).1) h
    have hfound : ¬ (whole = [] ∧ leadingDigits u = []) := by
      rintro ⟨hwhole, hnil⟩
      have hlead : f <+: leadingDigits u := hcases.elim (fun hsame => hsame.1 ▸ List.prefix_rfl)
        And.right
      rw [hnil, List.prefix_nil] at hlead
      exact hsome.elim (· hwhole) (· hlead)
    rw [scanFraction_point, if_neg hfound]
    rcases hcases with ⟨hsame, hbehind⟩ | ⟨hnil, hlead⟩
    · exact .inl ⟨congrArg some hsame, hbehind⟩
    · exact .inr ⟨hnil, List.cons_prefix_cons.2 ⟨rfl, hlead⟩⟩

theorem fractionText_head {fraction : Option Text} {tail : Text}
    (htail : ∀ c ∈ tail.head?, c.isDigit = false) :
    ∀ c ∈ (fractionText fraction ++ tail).head?, c.isDigit = false := by
  cases fraction with
  | none => exact htail
  | some f =>
    rintro _ ⟨⟩
    decide

theorem scanFraction_append {whole tail : Text} {fraction : Option Text}
    (hdigits : ∀ f ∈ fraction, ∀ c ∈ f, c.isDigit)
    (hsome : whole ≠ [] ∨ fraction.getD [] ≠ [])
    (htail : ∀ c ∈ tail.head?, c.isDigit = false ∧ c ≠ '.') :
    scanFraction whole (fractionText fraction ++ tail) = (fraction, tail) := by
  cases fraction with
  | none => exact scanFraction_of_head whole fun c hc => (htail c hc).2
  | some f =>
    have hnot : ∀ c ∈ tail.head?, c.isDigit = false := fun c hc => (htail c hc).1
    rw [fractionText, Option.elim_some, List.cons_append, scanFraction_point,
      leadingDigits_append (hdigits f rfl) hnot, afterDigits_append (hdigits f rfl) hnot, if_neg]
    rintro ⟨hwhole, hnil⟩
    exact hsome.elim (· hwhole) (· hnil)

/-! ## The parts behind the sign -/

def exponentText (exponent : Option Exponent) : Text := exponent.elim [] Exponent.written

/-- A literal as it is written behind its sign. -/
def unsigned (l : Literal) : Text :=
  l.whole ++ (fractionText l.fraction ++ exponentText l.exponent)

theorem written_eq (l : Literal) : l.written = l.sign ++ l.unsigned := by
  simp only [written, unsigned, fractionText, exponentText, List.append_assoc]

theorem exponentText_head {exponent : Option Exponent} (h : ∀ e ∈ exponent, e.IsFormed) :
    ∀ c ∈ (exponentText exponent).head?, c.isDigit = false ∧ c ≠ '.' := by
  cases exponent with
  | none => simp [exponentText]
  | some e => exact (h e rfl).head

/-- Behind the sign of a literal there is a digit or a point. -/
theorem IsFormed.exists_unsigned_eq_cons (hl : l.IsFormed) :
    ∃ c t, l.unsigned = c :: t ∧ (c.isDigit ∨ c = '.') := by
  unfold unsigned
  cases hwhole : l.whole with
  | cons c whole =>
    exact ⟨c, _, rfl, .inl (hl.isDigit_of_mem_whole c (by rw [hwhole]; exact List.mem_cons_self))⟩
  | nil =>
    cases hfraction : l.fraction with
    | some f => exact ⟨'.', _, rfl, .inr rfl⟩
    | none =>
      have hdigits := hl.digits_ne_nil
      simp [hwhole, hfraction] at hdigits

theorem IsFormed.splitSign_append (hl : l.IsFormed) (behind : Text) :
    splitSign (l.written ++ behind) = (l.sign, l.unsigned ++ behind) := by
  obtain ⟨c, t, hunsigned, hc⟩ := hl.exists_unsigned_eq_cons
  rw [written_eq, List.append_assoc, hunsigned]
  refine splitSign_append_of_head hl.sign_mem ?_
  rintro _ ⟨⟩
  constructor <;> (rintro rfl; revert hc; decide)

/-- The parts that are found behind a sign, whether there are digits among them or not, and what
follows them. -/
def parts (sign t : Text) : Literal × Text :=
  let (fraction, t') := scanFraction (leadingDigits t) (afterDigits t)
  (⟨sign, leadingDigits t, fraction, (Exponent.scan t').1⟩, (Exponent.scan t').2)

theorem scan?_of_splitSign {sign u : Text} (h : splitSign t = (sign, u)) :
    scan? t =
      if (parts sign u).1.whole = [] ∧ (parts sign u).1.fraction = none then none
      else some (parts sign u) := by
  simp only [scan?, h, parts]
  rfl

theorem unsigned_parts_append (sign t : Text) :
    (parts sign t).1.unsigned ++ (parts sign t).2 = t := by
  obtain ⟨hfraction, -⟩ := fractionText_append_scanFraction (leadingDigits t) (afterDigits t)
  obtain ⟨hexponent, -⟩ :=
    Exponent.written_append_scan (scanFraction (leadingDigits t) (afterDigits t)).2
  rw [parts, unsigned, List.append_assoc, List.append_assoc]
  dsimp only
  rw [exponentText, hexponent, hfraction, leadingDigits_append_afterDigits]

theorem exponent_parts (sign t : Text) : ∀ e ∈ (parts sign t).1.exponent, e.IsFormed :=
  (Exponent.written_append_scan (scanFraction (leadingDigits t) (afterDigits t)).2).2

theorem isFormed_parts {sign t : Text} (hsign : sign ∈ signs)
    (h : ¬ ((parts sign t).1.whole = [] ∧ (parts sign t).1.fraction = none)) :
    (parts sign t).1.IsFormed := by
  obtain ⟨-, hdigits⟩ := fractionText_append_scanFraction (leadingDigits t) (afterDigits t)
  refine ⟨hsign, isDigit_of_mem_leadingDigits, fun f hf => (hdigits f hf).1, ?_,
    exponent_parts sign t⟩
  rw [not_and_or] at h
  rcases h with hwhole | hfraction
  · exact .inl hwhole
  · obtain ⟨f, hf⟩ := Option.ne_none_iff_exists'.1 hfraction
    rw [hf, Option.getD_some]
    exact (hdigits f hf).2

theorem IsFormed.parts_unsigned (hl : l.IsFormed) : parts l.sign l.unsigned = (l, []) := by
  have hhead := exponentText_head hl.exponent_isFormed
  have htail : ∀ c ∈ (fractionText l.fraction ++ exponentText l.exponent).head?,
      c.isDigit = false := fractionText_head fun c hc => (hhead c hc).1
  have hscan : Exponent.scan (exponentText l.exponent) = (l.exponent, []) := by
    cases hexponent : l.exponent with
    | none => rfl
    | some e => exact (hl.exponent_isFormed e hexponent).scan_written
  rw [parts, unsigned, leadingDigits_append hl.isDigit_of_mem_whole htail,
    afterDigits_append hl.isDigit_of_mem_whole htail,
    scanFraction_append hl.isDigit_of_mem_fraction hl.digits_ne_nil hhead]
  dsimp only
  rw [hscan]

/-- A literal in front of a text goes no further than the parts that are found. -/
theorem IsFormed.unsigned_isPrefix (hl : l.IsFormed) (sign : Text) (h : l.unsigned <+: t) :
    l.unsigned <+: (parts sign t).1.unsigned := by
  have hhead := exponentText_head hl.exponent_isFormed
  have htail : ∀ c ∈ (fractionText l.fraction ++ exponentText l.exponent).head?,
      c.isDigit = false := fractionText_head fun c hc => (hhead c hc).1
  unfold unsigned parts
  rcases digits_cases hl.isDigit_of_mem_whole htail h with ⟨hwhole, hbehind⟩ | ⟨hnil, hdigits⟩
  · rw [← hwhole, List.prefix_append_right_inj]
    rcases scanFraction_cases hl.isDigit_of_mem_fraction hl.digits_ne_nil hhead hbehind with
      ⟨hfraction, hbehind⟩ | ⟨hnil, hfraction⟩
    · dsimp only
      rw [← hfraction, List.prefix_append_right_inj]
      cases hexponent : l.exponent with
      | none => exact List.nil_prefix
      | some e =>
        rw [hexponent] at hbehind
        obtain ⟨found, hfound, hlead⟩ := (hl.exponent_isFormed e hexponent).exists_scan hbehind
        rw [hfound]
        exact hlead
    · rw [hnil, List.append_nil]
      exact hfraction.trans (List.prefix_append _ _)
  · rw [hnil, List.append_nil]
    exact hdigits.trans (List.prefix_append _ _)

/-- An exponent alone does not have a literal in front. -/
theorem IsFormed.not_unsigned_isPrefix (hl : l.IsFormed) {found : Literal}
    (hwhole : found.whole = []) (hfraction : found.fraction = none)
    (hexponent : ∀ e ∈ found.exponent, e.IsFormed) : ¬ l.unsigned <+: found.unsigned := by
  rintro ⟨behind, hbehind⟩
  obtain ⟨c, body, hbody, hc⟩ := hl.exists_unsigned_eq_cons
  have hhead := exponentText_head hexponent
  rw [hbody, unsigned, hwhole, hfraction] at hbehind
  rw [show exponentText found.exponent = c :: (body ++ behind) from hbehind.symm] at hhead
  obtain ⟨hdigit, hpoint⟩ := hhead c rfl
  rcases hc with hc | hc
  · rw [hdigit] at hc
    cases hc
  · exact hpoint hc

/-! ## The scanner -/

/-- What the scanner finds is a literal in front of the text. -/
theorem scan?_eq_some (h : scan? t = some (l, rest)) : l.IsFormed ∧ t = l.written ++ rest := by
  obtain ⟨sign, hsign, u, rfl, hsplit⟩ := exists_splitSign t
  rw [scan?_of_splitSign hsplit] at h
  split at h
  · cases h
  · next hfound =>
    have hparts : parts sign u = (l, rest) := Option.some.inj h
    have hformed := isFormed_parts hsign hfound
    have happend := unsigned_parts_append sign u
    have hsame : (parts sign u).1.sign = sign := rfl
    rw [hparts] at hformed happend hsame
    exact ⟨hformed, by rw [written_eq, List.append_assoc, happend, hsame]⟩

/-- A literal in front of a text is the beginning of the one that is found. -/
theorem IsFormed.exists_scan? (hl : l.IsFormed) (h : l.written <+: t) :
    ∃ found rest, scan? t = some (found, rest) ∧ l.written <+: found.written := by
  obtain ⟨behind, rfl⟩ := h
  have hlead := hl.unsigned_isPrefix l.sign (List.prefix_append l.unsigned behind)
  rw [scan?_of_splitSign (hl.splitSign_append behind), if_neg]
  · refine ⟨_, _, rfl, ?_⟩
    rw [written_eq, written_eq]
    exact (List.prefix_append_right_inj _).2 hlead
  · rintro ⟨hwhole, hfraction⟩
    exact hl.not_unsigned_isPrefix hwhole hfraction (exponent_parts _ _) hlead

/-- A literal that is written is read back. -/
theorem IsFormed.scan?_written (hl : l.IsFormed) : scan? l.written = some (l, []) := by
  have hsplit := hl.splitSign_append []
  rw [List.append_nil, List.append_nil] at hsplit
  rw [scan?_of_splitSign hsplit, hl.parts_unsigned, if_neg]
  rintro ⟨hwhole, hfraction⟩
  exact hl.digits_ne_nil.elim (· hwhole) (· (congrArg (Option.getD · []) hfraction))

theorem isLongestPrefix_of_scan? (h : scan? t = some (l, rest)) :
    Text.IsLongestPrefix IsLiteral t l.written := by
  obtain ⟨hl, rfl⟩ := scan?_eq_some h
  refine ⟨List.prefix_append _ _, ⟨l, hl, rfl⟩, ?_⟩
  rintro _ hlead ⟨other, hother, rfl⟩
  obtain ⟨found, behind, hfound, hle⟩ := hother.exists_scan? hlead
  rw [h] at hfound
  obtain ⟨rfl, -⟩ := Prod.mk.inj (Option.some.inj hfound)
  exact hle.length_le

theorem scan?_eq_none_iff : scan? t = none ↔ ∀ p, p <+: t → ¬ IsLiteral p := by
  constructor
  · rintro hnone _ hlead ⟨l, hl, rfl⟩
    obtain ⟨found, rest, hfound, -⟩ := hl.exists_scan? hlead
    rw [hnone] at hfound
    cases hfound
  · intro hno
    rw [Option.eq_none_iff_forall_ne_some]
    rintro ⟨l, rest⟩ hfound
    obtain ⟨hlead, hliteral, -⟩ := isLongestPrefix_of_scan? hfound
    exact hno l.written hlead hliteral

/-- The text of the literal that is found, or nothing. -/
def front (t : Text) : Text := (scan? t).elim [] fun found => found.1.written

theorem IsFormed.written_ne_nil (hl : l.IsFormed) : l.written ≠ [] := by
  obtain ⟨c, u, hunsigned, -⟩ := hl.exists_unsigned_eq_cons
  rw [written_eq, hunsigned]
  exact List.append_ne_nil_of_right_ne_nil _ (List.cons_ne_nil _ _)

/-- The text that is found is the longest literal in front, and it is empty if there is none. -/
theorem isLongestPrefix_iff_front {p : Text} :
    Text.IsLongestPrefix IsLiteral t p ↔ front t = p ∧ p ≠ [] := by
  unfold front
  cases hscan : scan? t with
  | none =>
    have hno := scan?_eq_none_iff.1 hscan
    constructor
    · exact fun h => absurd h.holds (hno p h.isPrefix)
    · rintro ⟨rfl, hne⟩
      exact absurd rfl hne
  | some found =>
    have hlongest := isLongestPrefix_of_scan? hscan
    constructor
    · intro h
      refine ⟨hlongest.unique h, ?_⟩
      obtain ⟨l, hl, rfl⟩ := h.holds
      exact hl.written_ne_nil
    · rintro ⟨rfl, -⟩
      exact hlongest

theorem front_eq_nil_iff : front t = [] ↔ ∀ p, p <+: t → p ≠ [] → ¬ IsLiteral p := by
  constructor
  · intro hnil p hlead _ hliteral
    have hnone : scan? t = none := by
      cases hscan : scan? t with
      | none => rfl
      | some found =>
        have hne := (scan?_eq_some hscan).1.written_ne_nil
        rw [front, hscan] at hnil
        exact absurd hnil hne
    exact scan?_eq_none_iff.1 hnone p hlead hliteral
  · intro hno
    by_contra hne
    have hlongest := isLongestPrefix_iff_front.2 ⟨rfl, hne⟩
    exact hno _ hlongest.isPrefix hne hlongest.holds

end Literal

end PropertyConfig
