import PropertyConfig.Proofs.Load.Notes
import PropertyConfig.Proofs.Load.Provenance

/-!
# Where diagnostics point

The diagnostics of a resource and those of the resources that it includes come into one list. They
come line by line, and at each line what the resource notes by itself stands before what the
included resource gives (`diagnosticsIn_eq`). By itself a resource notes only what is about one of
its lines, and at its end that a block is open. So its own diagnostics point into its text, and come
in the order of the lines (`Loader.diagnostics_located`).
-/

namespace PropertyConfig

variable {w : Surroundings} {c : Context} {s : Store} {t : Text}

/-! ## Line by line -/

/-- The lines of a text, in their order. -/
def places (w : Surroundings) (c : Context) (s : Store) (t : Text) : List (Place w c s t) :=
  (List.finRange (Text.lines t).length).map fun i => .ofIndex (List.getElem?_eq_getElem i.isLt)

theorem Place.line_ofIndex {index : Nat} {raw : Text} (h : (Text.lines t)[index]? = some raw) :
    (ofIndex h : Place w c s t).line = index + 1 := by
  obtain ⟨hlt, -⟩ := List.getElem?_eq_some_iff.1 h
  simp [line, ofIndex, Nat.min_eq_left hlt.le]

theorem runLines_events {reader : Option Reader} (line : Nat) (m : Machine) (raws : List Text) :
    (runLines w reader c line m (raws.map Line.read)).2 =
      (List.finRange raws.length).flatMap fun i : Fin raws.length =>
        (step w reader c (line + i) (runLines w reader c line m ((raws.take i).map Line.read)).1
          (Line.read raws[i])).2 := by
  induction raws generalizing line m with
  | nil => rfl
  | cons raw raws ih =>
    -- the first line has the index 0, and those of the others are one higher than behind it
    have hrange : List.finRange (raw :: raws).length =
        0 :: (List.finRange raws.length).map Fin.succ := List.finRange_succ
    have hline (i : Fin raws.length) : line + (i.val + 1) = line + 1 + i.val := by omega
    rw [List.map_cons, runLines_cons, ih, hrange, List.flatMap_cons, List.flatMap_map]
    simp only [Fin.val_succ, hline]
    rfl

/-- What a text makes known is what its lines make known, one after the other, and what is noted at
its end. The reader may be any that lets the lines do the same. -/
theorem runText_events {reader : Option Reader}
    (hsame : ∀ lines, (runLines w reader c 1 { store := s } lines).1 =
      (runLines w (c.allowed (interpretIn w)) c 1 { store := s } lines).1) :
    (runText w reader c s t).events =
      ((places w c s t).flatMap fun p => (step w reader c p.line p.machine (Line.read p.raw)).2) ++
        endEvents c (runLines w (c.allowed (interpretIn w)) c 1 { store := s }
          ((Text.lines t).map Line.read)).1 := by
  have hline (i : Fin (Text.lines t).length) : 1 + i.val = i + 1 := Nat.add_comm 1 i
  show (runLines w reader c 1 { store := s } ((Text.lines t).map Line.read)).2 ++
    endEvents c (runLines w reader c 1 { store := s } ((Text.lines t).map Line.read)).1 = _
  rw [hsame, runLines_events, places, List.flatMap_map]
  simp only [hsame, hline, Place.line_ofIndex]
  rfl

/-! ## What is noted in a text -/

theorem mem_filterMap_diagnostic? {events : List Event} {d : Diagnostic} :
    d ∈ events.filterMap Event.diagnostic? ↔ .note d ∈ events := by
  rw [List.mem_filterMap]
  constructor
  · rintro ⟨e, he, hd⟩
    cases e with
    | fetch => cases hd
    | note d' => exact Option.some.inj hd ▸ he
  · exact fun he => ⟨_, he, rfl⟩

/-- What is noted while a text is interpreted. -/
def diagnosticsIn (w : Surroundings) (c : Context) (s : Store) (t : Text) : List Diagnostic :=
  (interpretIn w c s t).events.filterMap Event.diagnostic?

/-- What a text notes by itself, without what the texts note that it includes. -/
def ownDiagnostics (w : Surroundings) (c : Context) (s : Store) (t : Text) : List Diagnostic :=
  (ownEvents w c s t).filterMap Event.diagnostic?

/-- What is noted at the end of a text. -/
def endDiagnostics (w : Surroundings) (c : Context) (s : Store) (t : Text) : List Diagnostic :=
  if (interpretIn w c s t).state = .outside then [] else [⟨c.source, none, .missingEndIf⟩]

namespace Place

variable (p : Place w c s t)

/-- What the line notes by itself. -/
def ownDiagnostics : List Diagnostic := p.ownEvents.filterMap Event.diagnostic?

/-- What is noted in the resource that the line includes, and in those that this includes. -/
def includedDiagnostics : List Diagnostic :=
  (eventsBelow w (interpretIn w) c p.machine (Line.read p.raw)).filterMap Event.diagnostic?

end Place

theorem filterMap_endEvents :
    (endEvents c (runLines w (c.allowed (interpretIn w)) c 1 { store := s }
      ((Text.lines t).map Line.read)).1).filterMap Event.diagnostic? = endDiagnostics w c s t := by
  rw [endDiagnostics, interpretIn_eq, runText, endEvents]
  split <;> rfl

/-- Line by line, what a text notes by itself stands before what the included text gives. -/
theorem diagnosticsIn_eq :
    diagnosticsIn w c s t =
      ((places w c s t).flatMap fun p => p.ownDiagnostics ++ p.includedDiagnostics) ++
        endDiagnostics w c s t := by
  rw [diagnosticsIn, interpretIn_eq, runText_events fun _ => rfl, List.filterMap_append,
    List.filterMap_flatMap, filterMap_endEvents]
  refine congrArg (List.flatMap · _ ++ _) (funext fun p => ?_)
  rw [(step_silenced _ _ _).2, List.filterMap_append]
  rfl

theorem ownDiagnostics_eq :
    ownDiagnostics w c s t =
      (places w c s t).flatMap Place.ownDiagnostics ++ endDiagnostics w c s t := by
  have hsame (lines : List Line) :
      (runLines w (c.allowed (interpretIn w).silenced) c 1 { store := s } lines).1 =
        (runLines w (c.allowed (interpretIn w)) c 1 { store := s } lines).1 :=
    runLines_silenced 1 { store := s } lines
  rw [ownDiagnostics, ownEvents, runText_events hsame, List.filterMap_append,
    List.filterMap_flatMap, filterMap_endEvents]
  rfl

/-! ## Where it points -/

namespace Place

variable {p : Place w c s t} {d : Diagnostic}

theorem line_le (p : Place w c s t) : p.line ≤ (Text.lines t).length := by
  rw [p.lines_eq, List.length_append, List.length_cons, line]
  omega

theorem points_at_line (h : d ∈ p.ownDiagnostics) :
    d.source = c.source ∧ d.line = some p.line ∧ d.notice ≠ .missingEndIf :=
  notesAt_step _ _ _ d (mem_filterMap_diagnostic?.1 h)

theorem read_ne_ignored (h : d ∈ p.ownDiagnostics) : Line.read p.raw ≠ .ignored := by
  intro hread
  have hnone : p.ownEvents = [] := by
    rw [ownEvents, hread]
    simp only [step, stepPlain]
    split <;> rfl
  rw [ownDiagnostics, hnone] at h
  cases h

end Place

theorem mem_endDiagnostics {d : Diagnostic} (h : d ∈ endDiagnostics w c s t) :
    d = ⟨c.source, none, .missingEndIf⟩ := by
  rw [endDiagnostics] at h
  split at h
  · cases h
  · exact List.mem_singleton.1 h

theorem mem_ownDiagnostics {d : Diagnostic} (h : d ∈ ownDiagnostics w c s t) :
    (∃ p : Place w c s t, d ∈ p.ownDiagnostics) ∨ d = ⟨c.source, none, .missingEndIf⟩ := by
  rw [ownDiagnostics_eq, List.mem_append, List.mem_flatMap] at h
  exact h.imp (fun ⟨p, _, hp⟩ => ⟨p, hp⟩) mem_endDiagnostics

/-- What a text notes by itself comes in the order of its lines. -/
theorem sorted_ownDiagnostics :
    ((ownDiagnostics w c s t).filterMap Diagnostic.line).Pairwise (· ≤ ·) := by
  have hend : (endDiagnostics w c s t).filterMap Diagnostic.line = [] := by
    rw [List.filterMap_eq_nil_iff]
    intro d hd
    rw [mem_endDiagnostics hd]
  have hline (p : Place w c s t) (n : Nat)
      (hn : n ∈ p.ownDiagnostics.filterMap Diagnostic.line) : n = p.line := by
    obtain ⟨d, hd, hn⟩ := List.mem_filterMap.1 hn
    rw [(Place.points_at_line hd).2.1] at hn
    exact (Option.some.inj hn).symm
  have hplaces : (places w c s t).Pairwise fun p q => p.line < q.line := by
    rw [places, List.pairwise_map]
    refine (List.pairwise_lt_finRange _).imp fun {i j} hij => ?_
    rw [Place.line_ofIndex, Place.line_ofIndex]
    exact Nat.succ_lt_succ hij
  rw [ownDiagnostics_eq, List.filterMap_append, hend, List.append_nil, List.filterMap_flatMap,
    List.pairwise_flatMap]
  constructor
  · intro p _
    refine List.pairwise_of_forall_mem_list fun m hm n hn => ?_
    rw [hline p m hm, hline p n hn]
  · refine hplaces.imp fun {p q} hpq m hm n hn => ?_
    rw [hline p m hm, hline q n hn]
    exact hpq.le

/-! ## Loads -/

namespace Loader

variable {l : Loader} {root : Root}

/-- What a load reports is what the texts that it reads note by themselves. -/
theorem mem_diagnostics_iff {r : LoadReport} (hr : (l.load root).result = .ok r) {d : Diagnostic} :
    d ∈ r.diagnostics ↔
      ∃ c s t, l.Reads root c s t ∧ d ∈ ownDiagnostics l.surroundings c s t := by
  have hroot (source : Option Url) (t₀ : Text) {r : LoadReport}
      (hr : (l.loadRoot source t₀).result = .ok r) :
      d ∈ r.diagnostics ↔
        ∃ c s t, l.Visits source t₀ c s t ∧ d ∈ ownDiagnostics l.surroundings c s t := by
    obtain rfl := Except.ok.inj hr
    simp only [ownDiagnostics, mem_filterMap_diagnostic?, interpretRoot_eq, mem_events_iff]
    rfl
  cases root with
  | text t₀ => exact hroot none t₀ hr
  | url url =>
    obtain ⟨source, t₀, hurl, hfetch, hload⟩ := exists_of_load_url hr
    rw [hload] at hr
    rw [hroot (some source) t₀ hr]
    constructor
    · rintro ⟨c, s, t, hvisits, hd⟩
      exact ⟨c, s, t, ⟨source, t₀, hurl, hfetch, hvisits⟩, hd⟩
    · rintro ⟨c, s, t, ⟨source', t₀', hurl', hfetch', hvisits⟩, hd⟩
      obtain rfl := Except.ok.inj (hurl.symm.trans hurl')
      obtain rfl := Except.ok.inj (hfetch.symm.trans hfetch')
      exact ⟨c, s, t, hvisits, hd⟩

/-- A diagnostic points at its cause in the text `t`, which a load reads in the context `c`. -/
structure Located (l : Loader) (root : Root) (c : Context) (t : Text) (d : Diagnostic) : Prop where
  source_eq_none_iff : d.source = none ↔ root = .text t ∧ c.depth = 1
  fetched : ∀ url ∈ d.source, url ∈ (l.load root).fetched ∧ l.surroundings.fetch url = .ok t
  line : ∀ n ∈ d.line, 1 ≤ n ∧ n ≤ (Text.lines t).length ∧
    ∃ raw, (Text.lines t)[n - 1]? = some raw ∧ Line.read raw ≠ .ignored
  line_eq_none_iff : d.line = none ↔ d.notice = .missingEndIf

theorem located_of_reads (h : l.Reads root c s t) {d : Diagnostic}
    (hd : d ∈ ownDiagnostics l.surroundings c s t) : l.Located root c t d := by
  obtain ⟨hnone, hsome⟩ := source_of_reads h
  rcases mem_ownDiagnostics hd with ⟨p, hp⟩ | rfl
  · obtain ⟨hsource, hline, hnotice⟩ := Place.points_at_line hp
    rw [← hsource] at hnone hsome
    refine ⟨hnone, hsome, ?_, by simp [hline, hnotice]⟩
    rw [hline]
    rintro _ ⟨⟩
    exact ⟨Nat.le_add_left 1 _, p.line_le, p.raw, p.getElem?_lines, Place.read_ne_ignored hp⟩
  · exact ⟨hnone, hsome, nofun, by simp⟩

/-- **Diagnostics point at their cause.** What a load reports is what the texts that it reads note
by themselves. The source of such a diagnostic is the URL from which its text is fetched, and it has
none exactly if the text is a root that is given as one. Its line is one of the text, and not one
that is ignored; it has none exactly if it reports that a block is open at the end. What a text
notes by itself comes in the order of its lines, and is what is left of all that is noted while it
is interpreted if what comes from the texts is left out that it includes. -/
theorem diagnostics_located (l : Loader) (root : Root) :
    (∀ r, (l.load root).result = .ok r → ∀ d, d ∈ r.diagnostics ↔
      ∃ c s t, l.Reads root c s t ∧ d ∈ ownDiagnostics l.surroundings c s t) ∧
    ∀ c s t, l.Reads root c s t →
      (∀ d ∈ ownDiagnostics l.surroundings c s t, l.Located root c t d) ∧
      ((ownDiagnostics l.surroundings c s t).filterMap Diagnostic.line).Pairwise (· ≤ ·) ∧
      diagnosticsIn l.surroundings c s t =
        ((places l.surroundings c s t).flatMap fun p =>
            p.ownDiagnostics ++ p.includedDiagnostics) ++
          endDiagnostics l.surroundings c s t ∧
      ownDiagnostics l.surroundings c s t =
        (places l.surroundings c s t).flatMap Place.ownDiagnostics ++
          endDiagnostics l.surroundings c s t :=
  ⟨fun _ hr _ => mem_diagnostics_iff hr, fun _ _ _ hreads =>
    ⟨fun _ hd => located_of_reads hreads hd, sorted_ownDiagnostics, diagnosticsIn_eq,
      ownDiagnostics_eq⟩⟩

/-- Every resource has a comment, and `%x` on its second line. -/
def faultyLoader : Loader where
  surroundings :=
    { fetch := fun _ => .ok "#\n%x".toList
      readUrl := UrlReader.ascii
      ambient := none
      workingDirectory := [] }
  policy := {}
  includeName := true

/-- The text `%include=file:/a`, `%if y`. -/
def faultyText : Text := "%include=file:/a\n%if y".toList

/-- One diagnostic points into the included resource, and one at the end of the root. -/
theorem diagnostics_located_faulty :
    ∃ r, (faultyLoader.load (.text faultyText)).result = .ok r ∧
      r.diagnostics.map (fun d => (d.source.map Url.text, d.line)) =
        [(some "file:///a".toList, some 2), (none, none)] ∧
      ∀ d ∈ r.diagnostics, ∃ c s t, faultyLoader.Reads (.text faultyText) c s t ∧
        faultyLoader.Located (.text faultyText) c t d := by
  have hload : (faultyLoader.load (.text faultyText)).result = .ok _ :=
    result_loadRoot_of_includeName rfl none faultyText
  obtain ⟨hall, hlocated⟩ := diagnostics_located faultyLoader (.text faultyText)
  refine ⟨_, hload, by decide +kernel, fun d hd => ?_⟩
  obtain ⟨c, s, t, hreads, hown⟩ := (hall _ hload d).1 hd
  exact ⟨c, s, t, hreads, (hlocated c s t hreads).1 d hown⟩

end Loader

end PropertyConfig
