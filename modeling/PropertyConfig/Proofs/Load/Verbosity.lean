import PropertyConfig.Proofs.Line
import PropertyConfig.Proofs.Load.Skipping

/-!
# Verbosity

Debug mode and the messages of `%log` lines are for information only. A load in which `%debugMode`
lines are comments, and one that shows other messages, agree in all that becomes known for another
purpose (`essential`), and in the entries of the store (`Loader.verbosity_without_influence`). Their
runs stay together line by line (`alike_step`, `alike_runLines`): the machines differ in debug mode
only, and in a setting of the policy that no value depends on (`Store.logging`).
-/

namespace PropertyConfig

/-! ## What is not for information only -/

def Event.isEssential : Event → Bool
  | .fetch _ _ => true
  | .note d => d.severity != .info

/-- What becomes known, without what is noted for information only. -/
def essential (events : List Event) : List Event := events.filter Event.isEssential

@[simp]
theorem essential_append (a b : List Event) : essential (a ++ b) = essential a ++ essential b :=
  List.filter_append ..

theorem essential_of_info {c : Context} {line : Nat} {n : Notice} (h : n.severity = .info) :
    essential [c.noteAt line n] = [] := by
  simp [essential, Context.noteAt, Event.isEssential, Diagnostic.severity, h]

theorem essential_debugNote (c : Context) (line : Nat) (m : Machine) {n : Notice}
    (h : n.severity = .info) : essential (debugNote c line m n) = [] := by
  unfold debugNote
  split
  · exact essential_of_info h
  · rfl

@[simp]
theorem essential_asking (c : Context) (line : Nat) (m : Machine) (target : Text) (url : Url) :
    essential (asking c line m target url) = [.fetch c.depth url] := by
  rw [asking, essential_append, essential_debugNote c line m rfl]
  rfl

/-- A machine in debug mode makes nothing else known of a failure. -/
theorem Failure.essential_events (f : Failure) (c : Context) (line : Nat) (m m' : Machine)
    (isOptional : Bool) (target : Text) :
    essential (f.events c line m isOptional target) =
      essential (f.events c line m' isOptional target) := by
  rw [events, events, essential_append, essential_append]
  cases f.url? with
  | none => rfl
  | some url => simp only [Option.elim_some, essential_asking]

theorem fetched_essential (events : List Event) : fetched (essential events) = fetched events := by
  rw [fetched, essential, List.filterMap_filter]
  refine congrArg (List.filterMap · events) (funext fun e => ?_)
  cases e <;> simp [Event.isEssential, Event.fetched?]

theorem serious_essential (events : List Event) : serious (essential events) = serious events := by
  rw [serious, serious, List.filter_filterMap, List.filter_filterMap, essential,
    List.filterMap_filter]
  refine congrArg (List.filterMap · events) (funext fun e => ?_)
  cases e <;> simp [Event.isEssential, Event.diagnostic?, Option.filter]

/-! ## Stores that show messages or do not -/

/-- The store, with the messages of `%log` lines shown or not. -/
def Store.logging (b : Bool) (s : Store) : Store :=
  { s with policy := { s.policy with logMessages := b } }

namespace Store

variable {b : Bool}

theorem get?_logging (s : Store) (key : Text) : (s.logging b).get? key = s.get? key := rfl

theorem apply_logging (s : Store) (e : Edit) : (s.logging b).apply e = (s.apply e).logging b := by
  have haction : (s.logging b).policy.action e = s.policy.action e := by cases e <;> rfl
  rw [apply, apply, haction]
  cases s.policy.action e with
  | nothing => rfl
  | assign key value => rfl
  | erase key =>
    have hposition : (s.logging b).policy.position? (s.logging b).keys key =
        s.policy.position? s.keys key := rfl
    simp only [erase, hposition]
    cases s.policy.position? s.keys key <;> rfl

theorem run_logging (s : Store) (edits : List Edit) :
    (s.logging b).run edits = (s.run edits).logging b := by
  induction edits generalizing s with
  | nil => rfl
  | cons e edits ih =>
    rw [run, List.foldl_cons, apply_logging]
    exact ih (s.apply e)

theorem set_logging (s : Store) (key value : Text) :
    (s.logging b).set key value = (s.set key value).logging b := s.apply_logging _

theorem remove_logging (s : Store) (key : Text) :
    (s.logging b).remove key = (s.remove key).logging b := s.apply_logging _

theorem merge_logging (s other : Store) (withName : Bool) :
    ((s.logging b).merge (other.logging b) withName).store =
      (s.merge other withName).store.logging b :=
  s.run_logging _

theorem opened_logging (s : Store) (url : Url) :
    (s.logging b).opened url = (s.opened url).logging b := s.emptied.set_logging _ _

end Store

/-- The context, with the messages of `%log` lines shown or not. -/
def Context.logging (b : Bool) (c : Context) : Context :=
  { c with outer := c.outer.map (Store.logging b) }

section

variable {w : Surroundings} {c : Context} {b : Bool} {fetch : Url → Except LoadError Text}

theorem lookupIn_logging (s : Store) :
    lookupIn ((c.logging b).scope (w.refetching fetch) (s.logging b)) = lookupIn (c.scope w s) := by
  funext key
  have houter : (c.logging b).outer.findSome? (·.get? key) = c.outer.findSome? (·.get? key) :=
    List.findSome?_map
  rw [lookupIn_scope, lookupIn_scope, valueAt, valueAt, houter, Store.get?_logging]
  rfl

theorem expandIn_logging (s : Store) (t : Text) :
    expandIn ((c.logging b).scope (w.refetching fetch) (s.logging b)) t =
      expandIn (c.scope w s) t := by
  rw [expandIn, expandIn, lookupIn_logging]

theorem behind_logging (state : BlockState) (s : Store) (l : Line) :
    state.behind ((c.logging b).scope (w.refetching fetch) (s.logging b)) l =
      state.behind (c.scope w s) l := by
  cases l with
  | condition test =>
    have hholds : conditionHolds ((c.logging b).scope (w.refetching fetch) (s.logging b)) test =
        conditionHolds (c.scope w s) test := by
      cases test with
      | error e => rfl
      | ok asked => rw [conditionHolds, conditionHolds, lookupIn_logging]
    simp only [BlockState.behind, hholds]
  | _ => rfl

end

/-! ## Texts without debug mode -/

/-- A line is the same, or a comment in place of `%debugMode`. -/
inductive QuietedLine : Text → Text → Prop
  | kept (raw : Text) : QuietedLine raw raw
  | quieted {raw comment value : Text} : Line.read raw = .debugMode value →
      Line.isComment (Text.trim comment) → QuietedLine raw comment

/-- Some lines `%debugMode` of a text are comments. -/
def Quieted (t t' : Text) : Prop := List.Forall₂ QuietedLine (Text.lines t) (Text.lines t')

/-- With `fetch`, the resources that can be had have comments in place of some lines
`%debugMode`. -/
structure FetchedQuieted (w : Surroundings) (fetch : Url → Except LoadError Text) : Prop where
  error : ∀ url e, w.fetch url = .error e → fetch url = .error e
  ok : ∀ url t, w.fetch url = .ok t → ∃ t', fetch url = .ok t' ∧ Quieted t t'

/-- Two machines agree but for debug mode and for what messages are shown. -/
structure Machine.Alike (b : Bool) (m m' : Machine) : Prop where
  store_eq : m'.store = m.store.logging b
  state_eq : m'.state = m.state

/-- What came of two runs agrees but for what is for information only. -/
structure RunsAlike (b : Bool) (r r' : Machine × List Event) : Prop where
  machine : r.1.Alike b r'.1
  essential_eq : essential r'.2 = essential r.2

/-- What came of two texts agrees but for what is for information only. -/
structure Outcome.Alike (b : Bool) (o o' : Outcome) : Prop where
  store_eq : o'.store = o.store.logging b
  state_eq : o'.state = o.state
  essential_eq : essential o'.events = essential o.events

variable {w : Surroundings} {c : Context} {b : Bool} {fetch : Url → Except LoadError Text}
  {m m' : Machine}

theorem RunsAlike.outcome {r r' : Machine × List Event} (h : RunsAlike b r r') :
    (c.outcome r).Alike b ((c.logging b).outcome r') where
  store_eq := h.machine.store_eq
  state_eq := h.machine.state_eq
  essential_eq := by
    have hend : endEvents (c.logging b) r'.1 = endEvents c r.1 := by
      rw [endEvents, endEvents, h.machine.state_eq]
      rfl
    simp only [Context.outcome, essential_append, h.essential_eq, hend]

/-! ## Two runs -/

theorem essential_stepLog (w : Surroundings) (c : Context) (line : Nat) (m : Machine)
    (message : Text) : essential (stepLog w c line m message).2 = [] := by
  unfold stepLog
  split
  · exact essential_of_info rfl
  · rfl

theorem essential_stepDebugMode (c : Context) (line : Nat) (m : Machine) (value : Text) :
    essential (stepDebugMode c line m value).2 = [] := by
  simp only [stepDebugMode]
  split
  · exact essential_of_info rfl
  · rfl

section

variable {reader reader' : Option Reader} (h : m.Alike b m') (line : Nat) {l : Line}

include h

/-- A line that is no include makes the same known. -/
theorem essential_step (hl : ∀ written isOptional, l ≠ .inclusion written isOptional) :
    essential (step (w.refetching fetch) reader' (c.logging b) line m' l).2 =
      essential (step w reader c line m l).2 := by
  cases l with
  | inclusion written isOptional => exact absurd rfl (hl written isOptional)
  | condition test =>
    simp only [step, stepCondition, h.state_eq]
    cases m.state with
    | outside =>
      cases test with
      | error e => rfl
      | ok asked =>
        exact (essential_debugNote _ line m' rfl).trans (essential_debugNote c line m rfl).symm
    | _ => rfl
  | otherwise trailing =>
    simp only [step, stepOtherwise, h.state_eq]
    cases m.state <;> rfl
  | endIf trailing =>
    simp only [step, stepEndIf, h.state_eq]
    cases m.state <;> rfl
  | log message =>
    simp only [step, stepPlain, h.state_eq]
    split
    · rfl
    · rw [essential_stepLog, essential_stepLog]
  | debugMode value =>
    simp only [step, stepPlain, h.state_eq]
    split
    · rfl
    · rw [essential_stepDebugMode, essential_stepDebugMode]
  | invalidIf written => rfl
  | _ =>
    simp only [step, stepPlain, h.state_eq]
    split <;> rfl

/-- And it leaves machines that are alike. -/
theorem alike_machine (hl : ∀ written isOptional, l ≠ .inclusion written isOptional) :
    (step w reader c line m l).1.Alike b
      (step (w.refetching fetch) reader' (c.logging b) line m' l).1 where
  store_eq := by
    rw [step_store, step_store, h.state_eq]
    split
    · exact h.store_eq
    · rw [h.store_eq]
      cases l with
      | inclusion written isOptional => exact absurd rfl (hl written isOptional)
      | property key value => exact m.store.set_logging key value
      | reserved key value => exact m.store.set_logging key.key value
      | _ => rfl
  state_eq := by rw [step_state, step_state, h.state_eq, h.store_eq, behind_logging]

/-- Instead of a line `%debugMode`, a comment may stand. -/
theorem alike_debugMode (value : Text) :
    RunsAlike b (step w reader c line m (.debugMode value))
      (step (w.refetching fetch) reader' (c.logging b) line m' .ignored) := by
  have hignored : step (w.refetching fetch) reader' (c.logging b) line m' .ignored = (m', []) :=
    ite_self _
  rw [hignored]
  by_cases hstate : m.state = .skipped
  · rw [step_of_skipped rfl hstate]
    exact ⟨h, rfl⟩
  · simp only [step, if_neg hstate, stepPlain]
    exact ⟨⟨h.store_eq, h.state_eq⟩, (essential_stepDebugMode c line m value).symm⟩

end

section

variable {read read' : Reader}
  (hread : c.depth < maxDepth → ∀ url s t t', Quieted t t' →
    (read (c.below url s) (s.opened url) t).Alike b
      (read' ((c.below url s).logging b) ((s.opened url).logging b) t'))

include hread

theorem alike_readIncluded (hdepth : c.depth < maxDepth) (s : Store) (url : Url) {t t' : Text}
    (ht : Quieted t t') :
    (readIncluded read' (c.logging b) (s.logging b) url t').1 =
        (readIncluded read c s url t).1.logging b ∧
      essential (readIncluded read' (c.logging b) (s.logging b) url t').2 =
        essential (readIncluded read c s url t).2 := by
  have hread := hread hdepth url s t t' ht
  have hopened : (s.logging b).emptied.set configUrlKey url.text = (s.opened url).logging b :=
    s.opened_logging url
  have hbelow : (c.logging b).below url (s.logging b) = (c.below url s).logging b := rfl
  simp only [readIncluded, hopened, hbelow]
  exact ⟨by rw [hread.store_eq, Store.remove_logging]; rfl, hread.essential_eq⟩

variable (hfetch : FetchedQuieted w fetch)

include hfetch

/-- An include that is executed does the same. -/
theorem alike_inclusion (h : m.Alike b m') (hstate : m.state ≠ .skipped) (line : Nat)
    (written : Text) (isOptional : Bool) :
    RunsAlike b (step w (c.allowed read) c line m (.inclusion written isOptional))
      (step (w.refetching fetch) ((c.logging b).allowed read') (c.logging b) line m'
        (.inclusion written isOptional)) := by
  have hstate' : m'.state ≠ .skipped := h.state_eq ▸ hstate
  have htarget : expandIn ((c.logging b).scope (w.refetching fetch) m'.store) written =
      expandIn (c.scope w m.store) written := by
    rw [h.store_eq, expandIn_logging]
  cases hfollow : follow w c (expandIn (c.scope w m.store) written) with
  | error f =>
    have hfollow' : follow (w.refetching fetch) (c.logging b)
        (expandIn ((c.logging b).scope (w.refetching fetch) m'.store) written) = .error f := by
      rw [htarget]
      exact follow_refetching_of_error (c := c) hfetch.error hfollow
    rw [step_inclusion_of_error read hstate hfollow, step_inclusion_of_error read' hstate' hfollow',
      htarget]
    refine ⟨h, ?_⟩
    -- the failure is the same one, announced at most in debug mode
    rw [essential_append, essential_append, essential_debugNote _ _ _ rfl,
      essential_debugNote _ _ _ rfl]
    exact congrArg ([] ++ ·) (f.essential_events c line m' m isOptional _)
  | ok found =>
    obtain ⟨url, t⟩ := found
    obtain ⟨hdepth, hurl, ht⟩ := follow_eq_ok_iff.1 hfollow
    obtain ⟨t', ht', hquieted⟩ := hfetch.ok url t ht
    have hfollow' : follow (w.refetching fetch) (c.logging b)
        (expandIn ((c.logging b).scope (w.refetching fetch) m'.store) written) = .ok (url, t') := by
      rw [htarget]
      exact follow_eq_ok_iff.2 ⟨hdepth, hurl, ht'⟩
    obtain ⟨hincluded, hevents⟩ := alike_readIncluded hread hdepth m.store url hquieted
    rw [step_inclusion_of_ok read hstate hfollow, step_inclusion_of_ok read' hstate' hfollow',
      htarget]
    refine ⟨⟨?_, h.state_eq⟩, ?_⟩
    · simp only [h.store_eq, hincluded, Store.merge_logging]
    · simp only [essential_append, essential_asking, h.store_eq, hevents]
      rw [essential_debugNote _ _ _ rfl, essential_debugNote _ _ _ rfl]
      rfl

/-- A line does the same in both runs. -/
theorem alike_step (h : m.Alike b m') (line : Nat) (l : Line) :
    RunsAlike b (step w (c.allowed read) c line m l)
      (step (w.refetching fetch) ((c.logging b).allowed read') (c.logging b) line m' l) := by
  cases l with
  | inclusion written isOptional =>
    by_cases hstate : m.state = .skipped
    · rw [step_of_skipped rfl hstate, step_of_skipped rfl (h.state_eq.trans hstate)]
      exact ⟨h, rfl⟩
    · exact alike_inclusion hread hfetch h hstate line written isOptional
  | _ => exact ⟨alike_machine h line nofun, essential_step h line nofun⟩

theorem alike_runLines {raws raws' : List Text} (hraws : List.Forall₂ QuietedLine raws raws')
    (h : m.Alike b m') (line : Nat) :
    RunsAlike b (runLines w (c.allowed read) c line m (raws.map Line.read))
      (runLines (w.refetching fetch) ((c.logging b).allowed read') (c.logging b) line m'
        (raws'.map Line.read)) := by
  induction hraws generalizing m m' line with
  | nil => exact ⟨h, rfl⟩
  | @cons raw raw' raws raws' hraw _ ih =>
    have hstep : RunsAlike b (step w (c.allowed read) c line m (Line.read raw))
        (step (w.refetching fetch) ((c.logging b).allowed read') (c.logging b) line m'
          (Line.read raw')) := by
      cases hraw with
      | kept => exact alike_step hread hfetch h line _
      | quieted hmode hcomment =>
        rw [hmode, Line.read_eq_ignored hcomment]
        exact alike_debugMode h line _
    have hrest := ih hstep.machine (line + 1)
    rw [List.map_cons, List.map_cons, runLines_cons, runLines_cons]
    refine ⟨hrest.machine, ?_⟩
    rw [essential_append, essential_append, hstep.essential_eq, hrest.essential_eq]

end

theorem alike_interpretIn (hfetch : FetchedQuieted w fetch) {s : Store} {t t' : Text}
    (ht : Quieted t t') :
    (interpretIn w c s t).Alike b
      (interpretIn (w.refetching fetch) (c.logging b) (s.logging b) t') := by
  induction c using Context.below_induction generalizing s t t' with
  | step c ih =>
    have hstart : Machine.Alike b { store := s } { store := s.logging b } := ⟨rfl, rfl⟩
    -- what is included stands one level deeper, so `ih` tells of it what `alike_runLines` asks
    rw [interpretIn_eq_outcome, interpretIn_eq_outcome]
    exact (alike_runLines (fun hdepth url s t t' ht => ih hdepth url s ht) hfetch ht hstart
      1).outcome

/-! ## Loads -/

/-- Two roots are the same URL, or texts in the second of which some lines `%debugMode` are
comments. -/
inductive Loader.Root.Quieted : Loader.Root → Loader.Root → Prop
  | text {t t' : Text} : PropertyConfig.Quieted t t' → Quieted (.text t) (.text t')
  | url (url : Text) : Quieted (.url url) (.url url)

namespace LoadReport

/-- The entries that a load produces, and the diagnostics that are not for information only. -/
def essentials (r : LoadReport) : List Entry × List Diagnostic :=
  (r.store.entries, r.diagnostics.filter (·.severity != .info))

/-- The report without what is for information only, of a load that shows messages or does not. -/
def quieted (b : Bool) (r : LoadReport) : LoadReport where
  store := r.store.logging b
  diagnostics := r.diagnostics.filter (·.severity != .info)

theorem essentials_quieted (b : Bool) (r : LoadReport) :
    (r.quieted b).essentials = r.essentials := by
  simp only [essentials, quieted, List.filter_filter, Bool.and_self]
  rfl

end LoadReport

theorem Attempt.map_map {α β γ : Type} (f : α → β) (g : β → γ) (a : Attempt α) :
    (a.map f).map g = a.map (g ∘ f) := by
  obtain ⟨fetched, result⟩ := a
  cases result <;> rfl

namespace Loader

/-- The loader, showing the messages of `%log` lines or not. -/
def logging (b : Bool) (l : Loader) : Loader :=
  { l with policy := { l.policy with logMessages := b } }

/-- A loader is set up so by its option. -/
theorem logging_loader (o : LoaderOptions) (b : Bool) (vars : List (Text × Text))
    (fetch : Url → Except LoadError Text) (readUrl : UrlReader) (workingDirectory : Text) :
    (o.loader vars fetch readUrl workingDirectory).logging b =
      { o with logMessages := b }.loader vars fetch readUrl workingDirectory := rfl

variable {l : Loader}

theorem rootStore_logging (b : Bool) (source : Option Url) :
    (l.logging b).rootStore source = (l.rootStore source).logging b := by
  cases source with
  | none => rfl
  | some url => exact Store.set_logging { policy := l.policy } configUrlKey url.text

section

variable (b) (hfetch : FetchedQuieted l.surroundings fetch)

include hfetch

theorem alike_interpretRoot (source : Option Url) {t t' : Text} (ht : Quieted t t') :
    (l.interpretRoot source t).Alike b
      (((l.refetching fetch).logging b).interpretRoot source t') := by
  have hroot := (l.refetching fetch).rootStore_logging b source
  rw [interpretRoot_eq, interpretRoot_eq, hroot]
  exact alike_interpretIn hfetch ht

theorem quieted_loadRoot (source : Option Url) {t t' : Text} (ht : Quieted t t') :
    (((l.refetching fetch).logging b).loadRoot source t').map (LoadReport.quieted b) =
      (l.loadRoot source t).map (LoadReport.quieted b) := by
  have halike := alike_interpretRoot b hfetch source ht
  have hfetched : fetched (((l.refetching fetch).logging b).interpretRoot source t').events =
      fetched (l.interpretRoot source t).events := by
    rw [← fetched_essential, halike.essential_eq, fetched_essential]
  have hserious : serious (((l.refetching fetch).logging b).interpretRoot source t').events =
      serious (l.interpretRoot source t).events := by
    rw [← serious_essential, halike.essential_eq, serious_essential]
  rw [fetched, fetched] at hfetched
  rw [serious, serious] at hserious
  have hname : ((l.refetching fetch).logging b).includeName = l.includeName := rfl
  simp only [loadRoot, Attempt.map, Except.map, LoadReport.quieted, hfetched, hserious, hname,
    halike.store_eq]
  cases l.includeName with
  | true => rfl
  | false =>
    simp only [Bool.false_eq_true, if_false, Store.remove_logging]
    rfl

theorem quieted_load {root root' : Root} (hroot : root.Quieted root') :
    (((l.refetching fetch).logging b).load root').map (LoadReport.quieted b) =
      (l.load root).map (LoadReport.quieted b) := by
  cases hroot with
  | text ht => exact quieted_loadRoot b hfetch none ht
  | url url =>
    refine load_url_related (R := fun a a' => a'.map (LoadReport.quieted b) =
      a.map (LoadReport.quieted b)) (fun _ => rfl) rfl hfetch.error fun source t _ hsource => ?_
    obtain ⟨t', ht', hquieted⟩ := hfetch.ok source t hsource
    exact ⟨t', ht', quieted_loadRoot b hfetch (some source) hquieted⟩

end

/-- What is loaded into a store does not depend on what is for information only. -/
theorem loadInto_eq_quieted (l : Loader) (b : Bool) (target : Store) (url : Text) :
    l.loadInto target url =
      ((l.load (.url url)).map (LoadReport.quieted b)).map fun r =>
        target.merge (r.store.remove configUrlKey) l.includeName := by
  rw [Attempt.map_map, loadInto, load]
  refine congrArg (Attempt.map · _) (funext fun r => ?_)
  simp only [Function.comp_apply, LoadReport.quieted, Store.remove_logging]
  rfl

/-- **Verbosity has no influence.** Let lines `%debugMode` become comments in the root or in any
resources, and let the messages of `%log` lines be shown or not. A load asks for the same URLs, and
it fails with the same error or produces the same entries; the diagnostics that are not for
information only are the same ones in the same order. What is loaded into a store is the same. -/
theorem verbosity_without_influence (l : Loader) (b : Bool)
    (fetch : Url → Except LoadError Text) (hfetch : FetchedQuieted l.surroundings fetch) :
    (∀ root root' : Root, root.Quieted root' →
      (((l.refetching fetch).logging b).load root').map LoadReport.essentials =
        (l.load root).map LoadReport.essentials) ∧
    ∀ target url, ((l.refetching fetch).logging b).loadInto target url = l.loadInto target url := by
  refine ⟨fun root root' hroot => ?_, fun target url => ?_⟩
  · have hessentials : LoadReport.essentials ∘ LoadReport.quieted b = LoadReport.essentials :=
      funext (LoadReport.essentials_quieted b)
    rw [← hessentials, ← Attempt.map_map, quieted_load b hfetch hroot, Attempt.map_map]
  · rw [loadInto_eq_quieted _ b, loadInto_eq_quieted l b, quieted_load b hfetch (.url url)]
    rfl

/-- The lines `%log=x` and `%include=file:/a`, with a given line in front. -/
def loggingText (front : Text) : Text :=
  List.intercalate ['\n'] [front, "%log=x".toList, circularLine]

/-- The line `%debugMode=1`. -/
def debugLine : Text := "%debugMode=1".toList

/-- Every resource has debug mode on, shows a message, and includes `circularUrl`. -/
def loudLoader : Loader :=
  LoaderOptions.loader {} [] (fun _ => .ok (loggingText debugLine)) UrlReader.ascii []

/-- In every resource, a comment stands instead, and no messages are shown. -/
def quietLoader : Loader :=
  LoaderOptions.loader { logMessages := false } [] (fun _ => .ok (loggingText ['#']))
    UrlReader.ascii []

theorem quieted_loggingText : Quieted (loggingText debugLine) (loggingText ['#']) := by
  have hdebug : Line.read debugLine = .debugMode ['1'] := rfl
  have hline : QuietedLine debugLine ['#'] := .quieted hdebug rfl
  have hsame : List.Forall₂ QuietedLine ["%log=x".toList, circularLine]
      ["%log=x".toList, circularLine] := List.forall₂_same.2 fun raw _ => .kept raw
  exact .cons hline hsame

/-- Both loads warn of the include that is too deep, and nothing else is left of what the first one
notes. -/
theorem verbosity_without_influence_circular :
    let loud := loudLoader.load (.text (loggingText debugLine))
    let quiet := quietLoader.load (.text (loggingText ['#']))
    quiet.map LoadReport.essentials = loud.map LoadReport.essentials ∧
      loud.result.map (·.diagnostics.length) = .ok 12 ∧
      quiet.result.map (·.diagnostics.length) = .ok 1 := by
  have hfetch : FetchedQuieted loudLoader.surroundings fun _ => .ok (loggingText ['#']) := by
    refine ⟨fun _ _ h => (by cases h), fun _ t h => ?_⟩
    obtain rfl := Except.ok.inj h
    exact ⟨_, rfl, quieted_loggingText⟩
  have hquiet : quietLoader =
      (loudLoader.refetching fun _ => .ok (loggingText ['#'])).logging false :=
    (logging_loader {} false [] _ _ []).symm
  have hloud : (loudLoader.load (.text (loggingText debugLine))).result = .ok _ :=
    result_loadRoot_of_includeName rfl none _
  have hsilent : (quietLoader.load (.text (loggingText ['#']))).result = .ok _ :=
    result_loadRoot_of_includeName rfl none _
  refine ⟨?_, (congrArg _ hloud).trans (congrArg Except.ok (by decide +kernel)),
    (congrArg _ hsilent).trans (congrArg Except.ok (by decide +kernel))⟩
  rw [hquiet]
  exact (verbosity_without_influence loudLoader false _ hfetch).1 _ _ (.text quieted_loggingText)

end Loader

end PropertyConfig
