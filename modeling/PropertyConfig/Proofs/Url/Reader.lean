import PropertyConfig.Proofs.Text.Trimming
import PropertyConfig.Url.Reader

/-!
# What lawful readers make of schemes

A lawful reader makes a URL of the scheme that is written out at the front of a text
(`UrlReader.IsLawful.scheme_of_split`), makes none of a path from the root alone, and reads the URL
of a file within a resource that is no file just as it reads it by itself
(`UrlReader.IsLawful.read_file_iff`).
-/

namespace PropertyConfig

namespace Url

variable {t : Text}

/-! ## The scheme of a text -/

theorem isSchemeChar_of_isAlpha {c : Char} (h : c.isAlpha) : isSchemeChar c := by
  simp [isSchemeChar, Char.isAlphanum, h]

theorem isSchemeChar_colon : isSchemeChar ':' = false := by decide

theorem isOuter_of_isSchemeChar {c : Char} (h : isSchemeChar c) : isOuter c = false := by
  rw [isOuter, decide_eq_false_iff_not]
  intro hc
  have hall : ∀ n ≤ 0x20, isSchemeChar (Char.ofNat n) = false := by decide
  have := hall c.toNat hc
  rw [Char.ofNat_toNat] at this
  simp [this] at h

theorem isOuter_of_isUncounted {c : Char} (h : isUncounted c) : isOuter c := by
  simp only [isUncounted, Bool.or_eq_true, decide_eq_true_eq] at h
  rcases h with (rfl | rfl) | rfl <;> decide

theorem splitScheme?_eq_some_iff {scheme rest : Text} :
    splitScheme? t = some (scheme, rest) ↔
      t = scheme ++ ':' :: rest ∧ (∃ c ∈ scheme.head?, c.isAlpha) ∧
        ∀ c ∈ scheme, isSchemeChar c := by
  unfold splitScheme?
  constructor
  · intro h
    split at h
    · rename_i c name sign after hcut
      obtain ⟨rfl, hsign, -⟩ := Text.cutAt?_eq_some hcut
      split at h
      · rename_i hscheme
        simp only [Bool.and_eq_true, List.all_eq_true] at hscheme
        obtain ⟨rfl, rfl⟩ : c :: name = scheme ∧ after = rest := by simpa using h
        refine ⟨by simpa using hsign, ⟨c, rfl, hscheme.1⟩, fun d hd => ?_⟩
        rcases List.mem_cons.1 hd with rfl | hd
        · exact isSchemeChar_of_isAlpha hscheme.1
        · exact hscheme.2 d hd
      · simp at h
    · simp at h
  · rintro ⟨rfl, ⟨c, hc, halpha⟩, hchars⟩
    obtain ⟨name, rfl⟩ := List.head?_eq_some_iff.1 hc
    have hcolon : ∀ d ∈ c :: name, decide (d = ':') = false := by
      intro d hd
      have hne : d ≠ ':' := by
        rintro rfl
        exact absurd (hchars _ hd) (by simp [isSchemeChar_colon])
      simpa using hne
    rw [Text.cutAt?_append hcolon (by simp)]
    simp only [halpha, Bool.true_and]
    rw [if_pos]
    exact List.all_eq_true.2 fun d hd => hchars d (List.mem_cons_of_mem _ hd)

/-- Nothing is dropped in front of a character that counts everywhere, if there are only such
characters before it. -/
theorem withoutEnds_append {a : Text} {c : Char} (h : ∀ d ∈ a ++ [c], isOuter d = false)
    (b : Text) : ∃ b', withoutEnds (a ++ c :: b) = a ++ c :: b' := by
  have hfront : (a ++ c :: b).dropWhile isOuter = a ++ c :: b := by
    cases a with
    | nil => rw [List.nil_append, List.dropWhile_cons_of_neg (by simpa using h c (by simp))]
    | cons d a =>
      rw [List.cons_append, List.dropWhile_cons_of_neg (by simpa using h d List.mem_cons_self)]
  have hend := Text.rdropWhile_append_cons (h c (by simp)) a b
  rw [List.rdropWhile] at hend
  exact ⟨_, by rw [withoutEnds, hfront, hend]⟩

theorem counted_append {a : Text} {c : Char} (h : ∀ d ∈ a ++ [c], isOuter d = false) (b : Text) :
    ∃ b', counted (a ++ c :: b) = a ++ c :: b' := by
  obtain ⟨b', hb'⟩ := withoutEnds_append h b
  have hcounts : ∀ d ∈ a ++ [c], (!isUncounted d) = true := by
    intro d hd
    rw [Bool.not_eq_true', Bool.eq_false_iff]
    intro huncounted
    exact absurd (isOuter_of_isUncounted huncounted) (by simp [h d hd])
  refine ⟨b'.filter (!isUncounted ·), ?_⟩
  rw [counted, hb', List.append_cons, List.filter_append, List.filter_eq_self.2 hcounts,
    ← List.append_cons]

/-- A scheme that is written out counts. -/
theorem schemeOf?_of_split {scheme rest : Text} (h : splitScheme? t = some (scheme, rest)) :
    schemeOf? t = some (Text.toLower scheme) := by
  obtain ⟨rfl, halpha, hchars⟩ := splitScheme?_eq_some_iff.1 h
  have hinner : ∀ d ∈ scheme ++ [':'], isOuter d = false := by
    intro d hd
    rcases List.mem_append.1 hd with hd | hd
    · exact isOuter_of_isSchemeChar (hchars d hd)
    · rw [List.mem_singleton.1 hd]
      decide
  obtain ⟨rest', hrest⟩ := counted_append hinner rest
  rw [schemeOf?, splitScheme?_eq_some_iff.2 ⟨hrest, halpha, hchars⟩]
  rfl

/-- A path from the root has no scheme. -/
theorem schemeOf?_slash (t : Text) : schemeOf? ('/' :: t) = none := by
  have hinner : ∀ d ∈ [] ++ ['/'], isOuter d = false := by
    intro d hd
    rw [List.mem_singleton.1 hd]
    decide
  obtain ⟨t', ht⟩ := counted_append hinner t
  rw [schemeOf?, Option.map_eq_none_iff, Option.eq_none_iff_forall_ne_some]
  rintro ⟨scheme, rest⟩ hsplit
  obtain ⟨heq, ⟨c, hc, halpha⟩, -⟩ := splitScheme?_eq_some_iff.1 hsplit
  obtain ⟨name, rfl⟩ := List.head?_eq_some_iff.1 hc
  obtain ⟨rfl, -⟩ : '/' = c ∧ _ := by simpa using ht.symm.trans heq
  exact absurd halpha (by decide)

end Url

/-! ## What is read -/

namespace UrlReader.IsLawful

variable {read : UrlReader} (hread : read.IsLawful) {u : Url} {t : Text}

include hread

/-- A text with a scheme is read as a URL of that scheme. -/
theorem scheme_of_split {base : Option Url} {scheme rest : Text}
    (hsplit : Url.splitScheme? t = some (scheme, rest)) (h : read base t = .ok u) :
    u.scheme = Text.toLower scheme := by
  have hscheme := hread.scheme_eq h
  rw [Url.schemeOf?_of_split hsplit, Option.some_or, Option.some.injEq] at hscheme
  exact hscheme.symm

/-- A path from the root is no URL by itself. -/
theorem read_none_slash (t : Text) : read none ('/' :: t) ≠ .ok u := by
  intro h
  have hscheme := hread.scheme_eq h
  rw [Url.schemeOf?_slash] at hscheme
  cases hscheme

/-- A base that is no file has no part in reading the URL of a file. -/
theorem read_file_iff {base : Url} (hbase : base.scheme ≠ Url.fileScheme) :
    read (some base) t = .ok u ∧ u.scheme = Url.fileScheme ↔
      read none t = .ok u ∧ u.scheme = Url.fileScheme := by
  by_cases ht : Url.schemeOf? t = some Url.fileScheme
  · rw [hread.file_base hbase ht]
  · -- of another text neither reading makes the URL of a file
    constructor
    · rintro ⟨h, hu⟩
      have hscheme := hread.scheme_eq h
      rw [hu, Option.or_eq_some_iff] at hscheme
      rcases hscheme with hscheme | ⟨-, hscheme⟩
      · exact absurd hscheme ht
      · exact absurd (Option.some.inj hscheme) hbase
    · rintro ⟨h, hu⟩
      have hscheme := hread.scheme_eq h
      rw [hu, Option.map_none, Option.or_none] at hscheme
      exact absurd hscheme ht

end UrlReader.IsLawful

end PropertyConfig
