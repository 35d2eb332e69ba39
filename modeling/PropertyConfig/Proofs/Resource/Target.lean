import PropertyConfig.Proofs.Text.Trimming
import PropertyConfig.Proofs.Url.Reader
import PropertyConfig.Resource.Target

/-!
# Files that targets name

A resource from the network cannot name a file outright, but a file can hide behind the scheme of
the resource: what stands behind that scheme is read relative to the resource, and may be a URL of
its own. For all lawful readers of URLs, `resolve_eq_file_iff` says which targets do so.
-/

namespace PropertyConfig.Target

variable {read : UrlReader}

theorem resolve_trim (read : UrlReader) (workingDirectory : Text) (parent : Option Url)
    (target : Text) :
    resolve read workingDirectory parent (Text.trim target) =
      resolve read workingDirectory parent target := by
  simp only [resolve, Text.trim_trim]

theorem resolve_of_blank {target : Text} (h : Text.trim target = []) (read : UrlReader)
    (workingDirectory : Text) (parent : Option Url) :
    resolve read workingDirectory parent target = .error .blankInclude := by
  simp [resolve, h]

/-- The file that a text names by itself. -/
def fileUrl? (read : UrlReader) (t : Text) : Option Url :=
  (read none t).toOption.filter (·.scheme == Url.fileScheme)

/-- The file that a target names within a resource that is no file: behind the scheme of the
resource if that is from the network, and outright otherwise. -/
def fileFrom? (read : UrlReader) (p : Url) (target : Text) : Option Url :=
  match Url.splitScheme? (Text.trim target) with
  | none => none
  | some (written, rest) =>
    if isNetwork p then
      if Text.toLower written = p.scheme then fileUrl? read rest else none
    else
      if Text.toLower written = Url.fileScheme ∧ rest ≠ [] then fileUrl? read (Text.trim target)
      else none

theorem fileUrl?_eq_some_iff {t : Text} {u : Url} :
    fileUrl? read t = some u ↔ read none t = .ok u ∧ u.scheme = Url.fileScheme := by
  unfold fileUrl?
  cases read none t with
  | error e => simp [Except.toOption]
  | ok v =>
    simp only [Except.toOption, Option.filter_eq_some_iff, Option.some.injEq, beq_iff_eq,
      Except.ok.injEq]

theorem absolute_eq_ok_iff {target : Text} {u : Url} :
    absolute read target = .ok u ↔ read none target = .ok u := by
  unfold absolute
  cases read none target <;> simp [Except.mapError]

theorem relative_eq_ok_iff {target : Text} {p u : Url} {rest : Text} :
    relative read target p rest = .ok u ↔ read (some p) rest = .ok u := by
  unfold relative
  cases read (some p) rest <;> simp [Except.mapError]

theorem isNetwork_iff {p : Url} :
    isNetwork p ↔ p.scheme = Url.httpScheme ∨ p.scheme = Url.httpsScheme := by
  simp [isNetwork]

/-- Outright, a file is named only outside the network. -/
theorem resolveFile_eq_ok_iff {p : Url} (hp : p.scheme ≠ Url.fileScheme) (workingDirectory : Text)
    {target rest : Text} {u : Url} :
    resolveFile read workingDirectory (some p) target rest = .ok u ↔
      isNetwork p = false ∧ rest ≠ [] ∧ read none target = .ok u := by
  rw [resolveFile, Option.filter_some]
  cases hnetwork : isNetwork p with
  | true => simp
  | false =>
    by_cases hrest : rest = []
    · simp [hrest]
    · simp [hrest, hp, absolute_eq_ok_iff]

/-- Behind the scheme of a resource from the network, a file is named by what names it by itself. -/
theorem resolveNetwork_eq_file_iff (hread : read.IsLawful) {p : Url}
    (hp : p.scheme ≠ Url.fileScheme) {target written rest : Text}
    (hsplit : Url.splitScheme? target = some (written, rest))
    (hwritten : Text.toLower written ≠ Url.fileScheme) {u : Url} :
    resolveNetwork read (some p) target (Text.toLower written) rest = .ok u ∧
        u.scheme = Url.fileScheme ↔
      Text.toLower written = p.scheme ∧ fileUrl? read rest = some u := by
  unfold resolveNetwork
  by_cases hslash : rest.head? = some '/'
  · obtain ⟨t, rfl⟩ := List.head?_eq_some_iff.1 hslash
    simp only [List.head?_cons, if_true, absolute_eq_ok_iff, fileUrl?_eq_some_iff]
    constructor
    · rintro ⟨h, hu⟩
      exact absurd ((hread.scheme_of_split hsplit h).symm.trans hu) hwritten
    · rintro ⟨-, h, -⟩
      exact absurd h (hread.read_none_slash t)
  · rw [if_neg hslash]
    by_cases hsame : p.scheme = Text.toLower written
    · simp only [Option.filter_some, hsame, beq_self_eq_true, if_true, relative_eq_ok_iff,
        hread.read_file_iff hp, true_and, fileUrl?_eq_some_iff]
    · simp [Option.filter_some, hsame, Ne.symm hsame]

/-- The file that a target resolves to, within a resource that is no file. -/
theorem resolve_eq_file_iff (hread : read.IsLawful) {p : Url} (hp : p.scheme ≠ Url.fileScheme)
    (workingDirectory : Text) {target : Text} {u : Url} :
    resolve read workingDirectory (some p) target = .ok u ∧ u.scheme = Url.fileScheme ↔
      fileFrom? read p target = some u := by
  simp only [resolve, fileFrom?]
  cases hsplit : Url.splitScheme? (Text.trim target) with
  | none => by_cases hblank : Text.trim target = [] <;> simp [hblank]
  | some parts =>
    obtain ⟨written, rest⟩ := parts
    have hblank : Text.trim target ≠ [] := by
      intro hnil
      have hnone : Url.splitScheme? [] = none := rfl
      simp [hnil, hnone] at hsplit
    rw [if_neg hblank]
    dsimp only
    by_cases hfile : Text.toLower written = Url.fileScheme
    · have hne : Text.toLower written ≠ p.scheme := fun h => hp (h ▸ hfile)
      rw [if_pos hfile, resolveFile_eq_ok_iff hp]
      cases hnetwork : isNetwork p with
      | true => simp [hne]
      | false =>
        by_cases hrest : rest = [] <;> simp [hfile, hrest, fileUrl?_eq_some_iff]
    · rw [if_neg hfile]
      by_cases hscheme : Text.toLower written = Url.httpScheme ∨
          Text.toLower written = Url.httpsScheme
      · rw [if_pos hscheme, resolveNetwork_eq_file_iff hread hp hsplit hfile]
        by_cases hsame : Text.toLower written = p.scheme
        · have hnetwork : isNetwork p := isNetwork_iff.2 (hsame ▸ hscheme)
          simp [hsame, hnetwork]
        · simp [hsame, hfile]
      · rw [if_neg hscheme]
        have hother : isNetwork p → Text.toLower written ≠ p.scheme := by
          intro hnetwork hsame
          exact hscheme (hsame ▸ isNetwork_iff.1 hnetwork)
        cases hnetwork : isNetwork p with
        | true => simp [hother hnetwork]
        | false => simp [hfile]

end PropertyConfig.Target
