import PropertyConfig.Load.Loader
import PropertyConfig.Proofs.Load.Reach
import PropertyConfig.Proofs.Resource.Target
import PropertyConfig.Proofs.Url.Scheme

/-!
# Files that a served configuration asks for

A load from the network is to ask for no file. It asks for one exactly when it reaches an include,
in a resource that is no file, whose target hides one (`loadUrl_asks_no_file_iff`).
-/

namespace PropertyConfig

variable {w : Surroundings}

/-- The first file on the way to a file is named in a resource that is none. -/
theorem exists_reaches_of_file {levels : Nat} {c : Context} {s : Store} {t : Text} {p : Url}
    (hc : c.source = some p) (hp : p.scheme ≠ Url.fileScheme) {source : Option Url} {target : Text}
    (h : Reaches w levels c s t source target) {u : Url}
    (hu : w.resolve source target = .ok u)
    (hfile : u.scheme = Url.fileScheme) :
    ∃ q target' v, Reaches w levels c s t (some q) target' ∧ q.scheme ≠ Url.fileScheme ∧
      w.resolve (some q) target' = .ok v ∧ v.scheme = Url.fileScheme := by
  induction h generalizing p with
  | here hexec => exact ⟨p, _, u, hc ▸ .here hexec, hp, hc ▸ hu, hfile⟩
  | @deeper levels c s t s' target url child source target' hexec hurl hfetch hreach ih =>
    by_cases hnext : url.scheme = Url.fileScheme
    · exact ⟨p, target, url, hc ▸ .here hexec, hp, hc ▸ hurl, hnext⟩
    · obtain ⟨q, target', v, hreach, hv⟩ := ih rfl hnext hu
      exact ⟨q, target', v, .deeper hexec hurl hfetch hreach, hv⟩

/-- A run of a resource that is no file asks for no file unless an include that it reaches, in a
resource that is none either, names one. -/
theorem interpret_asks_no_file_iff (hread : w.readUrl.IsLawful) {levels : Nat} {c : Context}
    {s : Store} {t : Text} {p : Url} (hc : c.source = some p) (hp : p.scheme ≠ Url.fileScheme) :
    (∀ u ∈ fetched (interpret w levels c s t).events, u.scheme ≠ Url.fileScheme) ↔
      ∀ q target, Reaches w levels c s t (some q) target → q.scheme ≠ Url.fileScheme →
        Target.fileFrom? w.readUrl q target = none := by
  constructor
  · intro h q target hreach hq
    cases hfrom : Target.fileFrom? w.readUrl q target with
    | none => rfl
    | some u =>
      obtain ⟨hu, hfile⟩ := (Target.resolve_eq_file_iff hread hq w.workingDirectory).2 hfrom
      exact absurd hfile (h u (mem_fetched_interpret_iff.2 ⟨some q, target, hreach, hu⟩))
  · intro h u hu hfile
    obtain ⟨source, target, hreach, hresolve⟩ := mem_fetched_interpret_iff.1 hu
    obtain ⟨q, target', v, hreach, hq, hv⟩ := exists_reaches_of_file hc hp hreach hresolve hfile
    have hfrom := (Target.resolve_eq_file_iff hread hq w.workingDirectory).1 hv
    rw [h q target' hreach hq] at hfrom
    cases hfrom

namespace Loader

/-- A load from the network asks for no file exactly when no include that it reaches hides one: none
in a resource from the network has a file behind its scheme, and none in a resource of another
scheme, short of files, names a file. A target of a resource from the network resolves to no file
exactly when there is none behind its scheme. -/
theorem loadUrl_asks_no_file_iff {l : Loader} (hread : l.surroundings.readUrl.IsLawful)
    {url : Text} {root : Url} (hroot : l.surroundings.resolve none url = .ok root)
    (hnetwork : Target.isNetwork root) :
    ((∀ u ∈ (l.loadUrl url).fetched, u.scheme ≠ Url.fileScheme) ↔
      ∀ t q target, l.surroundings.fetch root = .ok t →
        Reaches l.surroundings (maxDepth - 1) ⟨some root, 1, []⟩ (l.rootStore (some root)) t
          (some q) target →
        q.scheme ≠ Url.fileScheme →
        Target.fileFrom? l.surroundings.readUrl q target = none) ∧
    ∀ workingDirectory p target, Target.isNetwork p →
      ((∀ u, Target.resolve l.surroundings.readUrl workingDirectory (some p) target = .ok u →
          u.scheme ≠ Url.fileScheme) ↔
        Target.fileFrom? l.surroundings.readUrl p target = none) := by
  have hfile {p : Url} (hp : Target.isNetwork p) : p.scheme ≠ Url.fileScheme := by
    rcases Target.isNetwork_iff.1 hp with h | h <;> rw [h] <;> decide
  refine ⟨?_, fun workingDirectory p target hp => ?_⟩
  · rw [loadUrl, hroot]
    cases hfetch : l.surroundings.fetch root with
    | error e => simp [hfetch, hfile hnetwork]
    | ok t =>
      have hrun : (∀ u ∈ fetched (l.interpretRoot (some root) t).events,
            u.scheme ≠ Url.fileScheme) ↔
          ∀ q target, Reaches l.surroundings (maxDepth - 1) ⟨some root, 1, []⟩
              (l.rootStore (some root)) t (some q) target →
            q.scheme ≠ Url.fileScheme →
            Target.fileFrom? l.surroundings.readUrl q target = none :=
        interpret_asks_no_file_iff hread rfl (hfile hnetwork)
      simp only [hfetch, loadRoot, Option.toList_some, List.cons_append, List.nil_append,
        List.forall_mem_cons]
      constructor
      · rintro ⟨-, h⟩ t' q target ht
        obtain rfl := Except.ok.inj ht
        exact hrun.1 h q target
      · intro h
        exact ⟨hfile hnetwork, hrun.2 fun q target => h t q target rfl⟩
  · simp only [Option.eq_none_iff_forall_ne_some, ne_eq,
      ← Target.resolve_eq_file_iff hread (hfile hp) workingDirectory]
    exact ⟨fun h u hu => h u hu.1 hu.2, fun h u hu hscheme => h u ⟨hu, hscheme⟩⟩

/-- The URL of a file behind the scheme of another one. -/
def hidingTarget : Text := "http:file:///etc/passwd".toList

/-- The URL `file:///etc/passwd`. -/
def hiddenUrl : Url :=
  ⟨Url.fileScheme, some {}, .rooted ["etc".toList, "passwd".toList], none, none⟩

/-- The URL `http://cfg.example.com/main.conf`. -/
def servedUrl : Url where
  scheme := Url.httpScheme
  authority := some { host := some (.domain "cfg.example.com".toList) }
  path := .rooted ["main.conf".toList]
  query := none
  fragment := none

/-- All that there is to be loaded is a line that includes `hidingTarget`. -/
def hidingLoader : Loader where
  surroundings.fetch _ := .ok ("%include=".toList ++ hidingTarget)
  surroundings.readUrl := UrlReader.ascii
  surroundings.ambient := none
  surroundings.workingDirectory := []
  policy := {}
  includeName := true

theorem loadUrl_asks_no_file_iff_hiding :
    (¬ ∀ u ∈ (hidingLoader.loadUrl servedUrl.text).fetched, u.scheme ≠ Url.fileScheme) ∧
      ¬ ∀ u, Target.resolve UrlReader.ascii [] (some servedUrl) hidingTarget = .ok u →
        u.scheme ≠ Url.fileScheme := by
  have hroot : hidingLoader.surroundings.resolve none servedUrl.text = .ok servedUrl := rfl
  have hfrom : Target.fileFrom? hidingLoader.surroundings.readUrl servedUrl hidingTarget =
      some hiddenUrl := rfl
  have hreach : Reaches hidingLoader.surroundings (maxDepth - 1) ⟨some servedUrl, 1, []⟩
      (hidingLoader.rootStore (some servedUrl)) ("%include=".toList ++ hidingTarget)
      (some servedUrl) hidingTarget :=
    .here ⟨[], _, [], hidingTarget, false, _, rfl, rfl, rfl, by decide, rfl, rfl⟩
  obtain ⟨hload, htarget⟩ := loadUrl_asks_no_file_iff (l := hidingLoader) (Url.isLawful_parse _)
    hroot rfl
  constructor
  · intro h
    have hnone := hload.1 h _ servedUrl hidingTarget rfl hreach (by decide)
    rw [hfrom] at hnone
    cases hnone
  · intro h
    have hnone := (htarget [] servedUrl hidingTarget rfl).1 h
    rw [hfrom] at hnone
    cases hnone

/-- The file behind the scheme is asked for, though targets that name it outright are refused. -/
theorem loadUrl_asks_for_hidden_file :
    Target.isNetwork servedUrl ∧
      Target.resolve UrlReader.ascii [] (some servedUrl) hidingTarget = .ok hiddenUrl ∧
      (hidingLoader.loadUrl servedUrl.text).fetched = [servedUrl, hiddenUrl] ∧
      hiddenUrl.scheme = Url.fileScheme :=
  ⟨rfl, rfl, by decide +kernel, rfl⟩

end Loader

end PropertyConfig
