import PropertyConfig.Url.Parse

/-!
# The reader keeps its promises

What `Url.parse` reads has the scheme that the text starts with, in lower case, and where the text
has none, that of the base (`scheme_parse`). The characters that it drops leave the scheme of the
text as it is (`schemeOf?_eq`). So it is a lawful reader, whatever names it is told for domains that
are not in ASCII (`isLawful_parse`).
-/

namespace PropertyConfig.Url

variable {toAscii : Text → Option Text} {u : Url} {t : Text}

/-! ## Reading keeps the scheme -/

theorem scheme_along (scheme : Text) (authority : Option Authority) (directory : List Text)
    (t : Text) : (along scheme authority directory t).scheme = scheme := rfl

theorem scheme_withTail (u : Url) (t : Text) : (u.withTail t).scheme = u.scheme := by
  unfold withTail
  simp only []
  split <;> rfl

theorem scheme_withAuthority {scheme : Text} (h : withAuthority toAscii scheme t = .ok u) :
    u.scheme = scheme := by
  simp only [withAuthority, bind, Except.bind, pure, Except.pure] at h
  split at h
  · simp at h
  · split at h
    all_goals
      simp only [Except.ok.injEq] at h
      rw [← h]
    exact scheme_along _ _ _ _

theorem scheme_fileWithHost (h : fileWithHost toAscii t = .ok u) : u.scheme = fileScheme := by
  simp only [fileWithHost, bind, Except.bind, pure, Except.pure] at h
  split at h
  · obtain rfl := Except.ok.inj h
    rfl
  · split at h
    · obtain rfl := Except.ok.inj h
      rfl
    · split at h
      · simp at h
      · split at h
        all_goals
          obtain rfl := Except.ok.inj h
          rfl

theorem scheme_fileFromRoot (base : Option Url) (t : Text) :
    (fileFromRoot base t).scheme = fileScheme := by
  unfold fileFromRoot
  split
  · rfl
  · split
    · rfl
    · split
      · split <;> rfl
      · rfl

theorem scheme_fileRelative {b : Url} (hb : b.scheme = fileScheme) (t : Text) :
    (fileRelative b t).scheme = fileScheme := by
  unfold fileRelative
  simp only []
  repeat' split
  all_goals first | rfl | exact hb

theorem scheme_readFile_relative {base : Option Url} (hbase : ∀ b ∈ base, b.scheme = fileScheme)
    (t : Text) : (readFile.relative base t).scheme = fileScheme := by
  unfold readFile.relative
  split
  · rfl
  · rename_i b
    have hb := hbase b rfl
    split
    · rw [scheme_withTail, hb]
    · split
      · rfl
      · exact scheme_fileRelative hb t

theorem scheme_readFile {base : Option Url} (hbase : ∀ b ∈ base, b.scheme = fileScheme)
    (h : readFile toAscii base t = .ok u) : u.scheme = fileScheme := by
  have hrelative := scheme_readFile_relative hbase
  unfold readFile at h
  simp only [] at h
  split at h
  · split at h
    · exact scheme_fileWithHost h
    · split at h
      · obtain rfl := Except.ok.inj h
        exact scheme_fileFromRoot _ _
      · obtain rfl := Except.ok.inj h
        exact hrelative _
  · obtain rfl := Except.ok.inj h
    split
    · exact scheme_fileFromRoot _ _
    · exact hrelative _
  · rename_i b
    obtain rfl := Except.ok.inj h
    exact hbase b rfl
  · obtain rfl := Except.ok.inj h
    rfl

theorem scheme_readRelative {base : Url} (h : readRelative toAscii base t = .ok u) :
    u.scheme = base.scheme := by
  unfold readRelative at h
  simp only [] at h
  split at h
  · obtain rfl := Except.ok.inj h
    rfl
  · split at h
    · obtain rfl := Except.ok.inj h
      exact scheme_withTail _ _
    · split at h
      · split at h
        · exact scheme_withAuthority h
        · obtain rfl := Except.ok.inj h
          rfl
      · obtain rfl := Except.ok.inj h
        rfl

theorem scheme_readOther {scheme : Text} (h : readOther toAscii scheme t = .ok u) :
    u.scheme = scheme := by
  unfold readOther at h
  split at h
  · exact scheme_withAuthority h
  · obtain rfl := Except.ok.inj h
    rfl
  · obtain rfl := Except.ok.inj h
    rfl

theorem scheme_readWithScheme {base : Option Url} {scheme : Text}
    (h : readWithScheme toAscii base scheme t = .ok u) : u.scheme = scheme := by
  unfold readWithScheme at h
  split at h
  · rename_i hkind
    have hscheme : scheme = fileScheme := by
      unfold SchemeKind.of at hkind
      split at hkind
      · assumption
      · split at hkind <;> simp at hkind
    rw [hscheme]
    refine scheme_readFile (fun b hb => ?_) h
    simpa using (Option.mem_filter_iff.1 hb).2
  · exact scheme_readOther h
  · simp only [] at h
    split at h
    · rename_i b hb
      have hscheme : b.scheme = scheme := by
        have := (Option.mem_filter_iff.1 hb).2
        simp only [Bool.and_eq_true, beq_iff_eq] at this
        exact this.1
      rw [← hscheme]
      exact scheme_readRelative h
    · exact scheme_withAuthority h

theorem scheme_parse {base : Option Url} (h : parse toAscii base t = .ok u) :
    (∃ scheme rest, splitScheme? (clean t) = some (scheme, rest) ∧
        u.scheme = Text.toLower scheme) ∨
      splitScheme? (clean t) = none ∧ ∃ b, base = some b ∧ u.scheme = b.scheme := by
  simp only [parse] at h
  split at h
  · rename_i scheme rest hsplit
    exact .inl ⟨scheme, rest, hsplit, scheme_readWithScheme h⟩
  · simp at h
  · rename_i b hsplit
    refine .inr ⟨hsplit, b, rfl, ?_⟩
    split at h
    · obtain rfl := Except.ok.inj h
      exact scheme_withTail _ _
    · simp at h
    · split at h
      · rename_i hb
        rw [hb]
        exact scheme_readFile (by rintro _ ⟨⟩; exact hb) h
      · exact scheme_readRelative h

/-! ## Dropping characters keeps the scheme -/

/-- Whether a text can be a scheme. -/
def isScheme : Text → Bool
  | [] => false
  | c :: rest => c.isAlpha && rest.all isSchemeChar

theorem map_fst_splitScheme? (t : Text) :
    (splitScheme? t).map Prod.fst =
      ((Text.cutAt? (· = ':') t).map Prod.fst).filter isScheme := by
  rw [splitScheme?]
  cases Text.cutAt? (· = ':') t with
  | none => rfl
  | some parts =>
    obtain ⟨_ | ⟨c, rest⟩, sign, after⟩ := parts
    · rfl
    · cases h : c.isAlpha && rest.all isSchemeChar <;> simp [Option.filter, isScheme, h]

theorem endsInDriveLetter_of_no_colon {before : Text} (h : ':' ∉ before) :
    endsInDriveLetter before = false := by
  match before with
  | [] | [_] | [_, _] => rfl
  | d :: c :: e :: rest =>
    have hd : d ≠ ':' := fun heq => h (heq ▸ List.mem_cons_self)
    simp [endsInDriveLetter, isNormalDriveLetter, hd]

/-- Up to the first colon, characters are dropped without a trace. -/
theorem map_fst_cutAt?_dropUncounted {before : Text} (h : ':' ∉ before) (gap : Bool) (t : Text) :
    (Text.cutAt? (· = ':') (dropUncounted before gap t)).map Prod.fst =
      (Text.cutAt? (· = ':') (t.filter (!isUncounted ·))).map Prod.fst := by
  induction t generalizing before gap with
  | nil => rfl
  | cons c t ih =>
    cases hc : isUncounted c with
    | true => simpa [dropUncounted, hc] using ih h true
    | false =>
      have hdrop :
          dropUncounted before gap (c :: t) = c :: dropUncounted (c :: before) false t := by
        simp [dropUncounted, hc, endsInDriveLetter_of_no_colon h]
      have hfilter : (c :: t).filter (!isUncounted ·) = c :: t.filter (!isUncounted ·) :=
        List.filter_cons_of_pos (by simp [hc])
      rw [hdrop, hfilter, Text.cutAt?, Text.cutAt?]
      by_cases hcolon : c = ':'
      · simp [hcolon]
      · have hbefore : ':' ∉ c :: before := by simp [h, Ne.symm hcolon]
        simpa [hcolon, Function.comp_def] using congrArg (Option.map (c :: ·)) (ih hbefore false)

theorem schemeOf?_eq (t : Text) :
    schemeOf? t = (splitScheme? (clean t)).map fun parts => Text.toLower parts.1 := by
  have hcut := map_fst_cutAt?_dropUncounted List.not_mem_nil false (withoutEnds t)
  have hsplit :
      (splitScheme? (counted t)).map Prod.fst = (splitScheme? (clean t)).map Prod.fst := by
    rw [map_fst_splitScheme?, map_fst_splitScheme?, counted, clean, hcut]
  simpa [schemeOf?, Function.comp_def] using congrArg (Option.map Text.toLower) hsplit

/-! ## The promises -/

theorem isLawful_parse (toAscii : Text → Option Text) : UrlReader.IsLawful (parse toAscii) where
  scheme_eq {base t u} h := by
    rw [schemeOf?_eq]
    rcases scheme_parse h with ⟨scheme, rest, hsplit, hu⟩ | ⟨hnone, b, rfl, hu⟩
    · simp [hsplit, hu]
    · simp [hnone, hu]
  file_base {base t} hbase ht := by
    rw [schemeOf?_eq, Option.map_eq_some_iff] at ht
    obtain ⟨⟨scheme, rest⟩, hsplit, hscheme⟩ := ht
    -- of the bases, only files reach the reader of files
    have hfilter : (some base).filter (·.scheme == fileScheme) = none := by simp [hbase]
    simp only [parse, hsplit, hscheme, readWithScheme, SchemeKind.of, if_true, hfilter,
      Option.filter_none]

end PropertyConfig.Url
