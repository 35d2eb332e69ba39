import Mathlib.Tactic.MkIffOfInductiveProp
import PropertyConfig.Load.Loader
import PropertyConfig.Proofs.Line.Written
import PropertyConfig.Proofs.Load.Run
import PropertyConfig.Proofs.Store.Operations
import PropertyConfig.Url.Parse

/-!
# Texts of assignments

A text all of whose lines assign something is loaded as the store in which the entries are set that
the lines say, and nothing becomes known (`Loader.loadText_of_assigned`). What a store is saved as
is a text of this kind, if its entries fit in lines: a line is read as the entry that it was written
for (`Store.FitsLine.assigned?_eq`). Main statement: `Store.Reachable.loadText_savedText`.
-/

namespace PropertyConfig

variable {w : Surroundings} {reader : Option Reader} {c : Context} {m : Machine}

theorem step_of_assigned (hstate : m.state ≠ .skipped) {l : Line} {e : Entry}
    (h : l.assigned? = some e) (line : Nat) :
    step w reader c line m l = ({ m with store := m.store.set e.1 e.2 }, []) := by
  cases l with
  | property key value | reserved key value =>
    obtain rfl := Option.some.inj h
    exact if_neg hstate
  | _ => cases h

theorem runLines_of_assigned (hstate : m.state ≠ .skipped) {lines : List Line}
    {entries : List Entry} (h : lines.map Line.assigned? = entries.map some) (line : Nat) :
    runLines w reader c line m lines =
      ({ m with store := m.store.run (entries.map fun (key, value) => .set key value) }, []) := by
  induction lines generalizing m entries line with
  | nil =>
    obtain rfl : entries = [] := List.map_eq_nil_iff.1 h.symm
    rfl
  | cons l lines ih =>
    obtain ⟨e, rest, rfl, he, hrest⟩ := List.map_eq_cons_iff.1 h.symm
    have hstep : step w reader c line m l = ({ m with store := m.store.set e.1 e.2 }, []) :=
      step_of_assigned hstate he.symm line
    rw [runLines_cons, hstep, ih (m := { m with store := m.store.set e.1 e.2 }) hstate hrest.symm]
    rfl

namespace Loader

/-- The loader that is set up without any options. -/
def ofDefaults (vars : List (Text × Text)) (fetch : Url → Except LoadError Text)
    (readUrl : UrlReader) (workingDirectory : Text) : Loader :=
  LoaderOptions.loader {} vars fetch readUrl workingDirectory

theorem loadText_of_assigned (vars : List (Text × Text)) (fetch : Url → Except LoadError Text)
    (readUrl : UrlReader) (workingDirectory : Text) {t : Text} {entries : List Entry}
    (h : (Text.lines t).map (fun raw => (Line.read raw).assigned?) = entries.map some) :
    (ofDefaults vars fetch readUrl workingDirectory).loadText t =
      ⟨[], .ok { store := Store.ofEntries {} entries, diagnostics := [] }⟩ := by
  have hlines : ((Text.lines t).map Line.read).map Line.assigned? = entries.map some := by
    rw [List.map_map]
    exact h
  have hroot : (ofDefaults vars fetch readUrl workingDirectory).interpretRoot none t =
      ⟨Store.ofEntries {} entries, .outside, []⟩ := by
    rw [interpretRoot, interpret_eq_runText, runText,
      runLines_of_assigned (m := { store := _ }) (by simp) hlines]
    rfl
  rw [loadText, loadRoot, hroot]
  rfl

end Loader

/-! ## Saved stores -/

namespace Store

/-- An entry that a line can hold as it is. Values of reserved keys lose the blanks at their ends,
all others only those behind them. -/
@[mk_iff]
structure FitsLine (e : Entry) : Prop where
  key_trimmed : Text.trim e.1 = e.1
  key_undivided : '=' ∉ e.1
  key_in_line : '\n' ∉ e.1
  key_no_comment : e.1.head? ≠ some '#'
  key_no_directive : e.1.head? = some '%' → e.1 = nameKey ∨ e.1 = configUrlKey
  value_in_line : '\n' ∉ e.2
  value_trimmed : Text.trimEnd e.2 = e.2
  value_bare : e.1.head? = some '%' → Text.trimStart e.2 = e.2

instance (e : Entry) : Decidable (FitsLine e) := decidable_of_iff' _ (fitsLine_iff e)

/-- The line of an entry in what a store is saved as. -/
def savedLine (e : Entry) : Text := e.1 ++ '=' :: e.2

namespace FitsLine

variable {e : Entry}

theorem isLine (h : FitsLine e) : (savedLine e).IsLine := by
  have hreturn : Text.isBlankChar '\r' = true := by decide
  have hend : Text.endsBare (savedLine e) :=
    Text.endsBare_append_cons (by decide) (Text.trimEnd_eq_self_iff.1 h.value_trimmed) e.1
  refine ⟨by simp [savedLine, h.key_in_line, h.value_in_line], fun heq => ?_⟩
  simp [Text.endsBare, heq, hreturn] at hend

/-- A line is read as the entry that it was written for. -/
theorem assigned?_eq (h : FitsLine e) (hne : e.1 ≠ []) (hmark : e.1.head? ≠ some '!') :
    (Line.read (savedLine e)).assigned? = some e := by
  obtain ⟨key, value⟩ := e
  by_cases hpercent : key.head? = some '%'
  · obtain ⟨reserved, rfl⟩ : ∃ reserved : ReservedKey, key = reserved.key :=
      (h.key_no_directive hpercent).elim (fun hkey => ⟨.name, hkey⟩) fun hkey => ⟨.configUrl, hkey⟩
    have hvalue : Text.trim value = value := by
      rw [Text.trim, h.value_bare hpercent, h.value_trimmed]
    rw [savedLine, Line.read_reserved reserved hvalue]
    rfl
  · obtain ⟨c, rest, rfl⟩ := List.exists_cons_of_ne_nil hne
    have hkey := (Text.trim_eq_self_iff.1 h.key_trimmed).1
    have hvalue := Text.trimEnd_eq_self_iff.1 h.value_trimmed
    have hhash := h.key_no_comment
    simp only [List.head?_cons, ne_eq, Option.some.injEq] at hmark hhash hpercent
    have hsplit := Line.splitPair_equals h.key_undivided value
    rw [h.key_trimmed] at hsplit
    have hread : Line.read (savedLine (c :: rest, value)) = .property (c :: rest) value :=
      Line.read_eq_property (Text.trim_append_cons hne hkey (by decide) hvalue)
        ⟨hhash, hmark, hpercent⟩ hsplit
    rw [hread]
    rfl

end FitsLine

theorem savedText_eq {s : Store} (h : s.policy.separator = '=') :
    s.savedText = s.entries.flatMap fun e => savedLine e ++ ['\n'] := by
  simp [savedText, savedLine, h]

/-- **A saved store loads back.** Let `=` be the separator that a store is saved with, and let all
of its entries fit in lines. Then a loader without options loads what the store is saved as: the
result has the same entries in the same order, nothing is asked for, and nothing is noted. -/
theorem Reachable.loadText_savedText {allowed : Policy → Prop} {s : Store}
    (h : s.Reachable allowed) (hseparator : s.policy.separator = '=')
    (hfits : ∀ e ∈ s.entries, FitsLine e) (vars : List (Text × Text))
    (fetch : Url → Except LoadError Text) (readUrl : UrlReader) (workingDirectory : Text) :
    (Loader.ofDefaults vars fetch readUrl workingDirectory).loadText s.savedText =
      ⟨[], .ok { store := { entries := s.entries }, diagnostics := [] }⟩ := by
  have hkey (e : Entry) (he : e ∈ s.entries) :
      ∃ c rest, e.1 = c :: rest ∧ isRemovalMarker c = false :=
    h.wellKeyed e.1 (List.mem_map_of_mem he)
  have hlines : (Text.lines s.savedText).map (fun raw => (Line.read raw).assigned?) =
      s.entries.map some := by
    rw [savedText_eq hseparator, Text.lines_flatMap fun e he => (hfits e he).isLine, List.map_map]
    refine List.map_congr_left fun e he => ?_
    obtain ⟨c, rest, hcons, hmarker⟩ := hkey e he
    refine (hfits e he).assigned?_eq (by simp [hcons]) fun hmark => ?_
    simp only [hcons, List.head?_cons, Option.some.injEq] at hmark
    simp [hmark, isRemovalMarker] at hmarker
  have hdistinct : Policy.Distinct {} s.entries := h.nodup_keys
  have hname : ∀ e ∈ s.entries.tail, e.1 ≠ nameKey := by
    intro e he heq
    refine h.nameFirst ?_
    rw [keys, ← List.map_tail, ← heq]
    exact List.mem_map_of_mem he
  have hset : ∀ e ∈ s.entries, Policy.action {} (.set e.1 e.2) = .assign e.1 e.2 := by
    intro e he
    obtain ⟨c, rest, hcons, hmarker⟩ := hkey e he
    simp [hcons, Policy.action, hmarker]
  rw [Loader.loadText_of_assigned vars fetch readUrl workingDirectory hlines,
    ofEntries_eq hdistinct hname hset]

/-- A store with a name, and with other characters in keys and values that mean something elsewhere
in a line. -/
def savable : Store :=
  (((({} : Store).perform (.set "a:b".toList "  %=".toList)).perform
    (.set "k !".toList [])).perform (.set configUrlKey "${k}".toList)).perform
    (.set nameKey "xy".toList)

theorem loadText_savedText_savable :
    savable.savedText = "%name=xy\na:b=  %=\nk !=\n%configURL=${k}\n".toList ∧
      ((Loader.ofDefaults [] (fun _ => .ok []) UrlReader.ascii []).loadText
        savable.savedText).result =
        .ok { store := { entries := savable.entries }, diagnostics := [] } := by
  have hreachable : savable.Reachable fun _ => True :=
    .perform _ (.perform _ (.perform _ (.perform _ (.empty trivial))))
  have hfits : ∀ e ∈ savable.entries, FitsLine e := by decide
  refine ⟨by decide, ?_⟩
  rw [hreachable.loadText_savedText rfl hfits]

end Store

end PropertyConfig
