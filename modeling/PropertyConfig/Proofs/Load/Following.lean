import PropertyConfig.Proofs.Load.Reach

/-!
# Following includes

An include leads to a resource, or it comes to nothing for one of four reasons (`follow`); all that
it does is said by `step_inclusion_of_ok` and `step_inclusion_of_error`. How deep the resources of a
context may include others follows from its depth alone. So interpreting is one function
(`interpretIn`), which goes on in the contexts below until it comes to the greatest depth
(`interpretIn_eq`). What a line does depends on this function only at the resource that the line
follows (`step_congr`).
-/

namespace PropertyConfig

/-- Why an include comes to nothing. -/
inductive Failure
  | blank
  | tooDeep
  | unresolved (cause : LoadError)
  | unfetched (url : Url) (cause : LoadError)

namespace Failure

/-- What is noted of the failure. -/
def notice (c : Context) (isOptional : Bool) (target : Text) : Failure → Notice
  | blank => .includeFailed isOptional target .blankInclude
  | tooDeep => .includeSkipped c.depth target
  | unresolved cause => .includeFailed isOptional target cause
  | unfetched _ cause => .includeFailed isOptional target cause

/-- The URL that was asked for in vain. -/
def url? : Failure → Option Url
  | unfetched url _ => some url
  | _ => none

/-- How severe the failure is, in an include that is optional or not. -/
def severity (isOptional : Bool) : Failure → Severity
  | tooDeep => .warning
  | _ => if isOptional then .debug else .error

theorem severity_notice (c : Context) (isOptional : Bool) (target : Text) (f : Failure) :
    (f.notice c isOptional target).severity = f.severity isOptional := by
  cases f <;> cases isOptional <;> rfl

end Failure

/-- The resource that an include of a target leads to, or why it leads to none. -/
def follow (w : Surroundings) (c : Context) (target : Text) : Except Failure (Url × Text) :=
  if Text.trim target = [] then .error .blank
  else if maxDepth ≤ c.depth then .error .tooDeep
  else
    match w.resolve c.source target with
    | .error e => .error (.unresolved e)
    | .ok url =>
      match w.fetch url with
      | .error e => .error (.unfetched url e)
      | .ok t => .ok (url, t)

/-- A notice that is given in debug mode only. -/
def debugNote (c : Context) (line : Nat) (m : Machine) (n : Notice) : List Event :=
  if m.debugMode then [c.noteAt line n] else []

/-- What becomes known when a resource is asked for. -/
def asking (c : Context) (line : Nat) (m : Machine) (target : Text) (url : Url) : List Event :=
  debugNote c line m (.includingUrl target url) ++ [.fetch c.depth url]

/-- What becomes known when an include comes to nothing. -/
def Failure.events (f : Failure) (c : Context) (line : Nat) (m : Machine) (isOptional : Bool)
    (target : Text) : List Event :=
  f.url?.elim [] (asking c line m target) ++ [c.noteAt line (f.notice c isOptional target)]

/-- The diagnostics that are not for information only. -/
def serious (events : List Event) : List Diagnostic :=
  (events.filterMap Event.diagnostic?).filter (·.severity != .info)

@[simp]
theorem serious_append (a b : List Event) : serious (a ++ b) = serious a ++ serious b := by
  rw [serious, List.filterMap_append, List.filter_append]
  rfl

theorem fetched_debugNote (c : Context) (line : Nat) (m : Machine) (n : Notice) :
    fetched (debugNote c line m n) = [] := by
  unfold debugNote
  split <;> rfl

theorem serious_debugNote (c : Context) (line : Nat) (m : Machine) {n : Notice}
    (hn : n.severity = .info) : serious (debugNote c line m n) = [] := by
  unfold debugNote
  split
  · simp [serious, Context.noteAt, Event.diagnostic?, Diagnostic.severity, hn]
  · rfl

theorem fetched_asking (c : Context) (line : Nat) (m : Machine) (target : Text) (url : Url) :
    fetched (asking c line m target url) = [url] := by
  rw [asking, fetched_append, fetched_debugNote]
  rfl

theorem serious_asking (c : Context) (line : Nat) (m : Machine) (target : Text) (url : Url) :
    serious (asking c line m target url) = [] := by
  rw [asking, serious_append, serious_debugNote c line m rfl]
  rfl

namespace Failure

theorem fetched_events (f : Failure) (c : Context) (line : Nat) (m : Machine) (isOptional : Bool)
    (target : Text) : fetched (f.events c line m isOptional target) = f.url?.toList := by
  rw [events, fetched_append]
  cases f.url? with
  | none => rfl
  | some url => simp [fetched_asking]

theorem serious_events (f : Failure) (c : Context) (line : Nat) (m : Machine) (isOptional : Bool)
    (target : Text) :
    serious (f.events c line m isOptional target) =
      [⟨c.source, some line, f.notice c isOptional target⟩] := by
  have hnotice : (f.notice c isOptional target).severity ≠ .info := by
    rw [severity_notice]
    cases f <;> cases isOptional <;> simp [severity]
  have hnoted : serious [c.noteAt line (f.notice c isOptional target)] =
      [⟨c.source, some line, f.notice c isOptional target⟩] := by
    simp [serious, Context.noteAt, Event.diagnostic?, Diagnostic.severity, hnotice]
  rw [events, serious_append, hnoted]
  cases f.url? with
  | none => rfl
  | some url => simp [serious_asking]

end Failure

/-- What reads the resources that are included in a context; at the greatest depth nothing does. -/
def Context.allowed (c : Context) (read : Reader) : Option Reader :=
  if c.depth < maxDepth then some read else none

/-- The store that the text of an included resource is interpreted into. -/
def Store.opened (s : Store) (url : Url) : Store := s.emptied.set configUrlKey url.text

variable {w : Surroundings} {c : Context} {line : Nat} {m : Machine}

theorem follow_of_resolve {target : Text} {url : Url} (hdepth : c.depth < maxDepth)
    (hurl : w.resolve c.source target = .ok url) :
    follow w c target =
      match w.fetch url with
      | .error e => .error (.unfetched url e)
      | .ok t => .ok (url, t) := by
  have hblank : Text.trim target ≠ [] := by
    intro hblank
    rw [Surroundings.resolve_of_blank hblank] at hurl
    cases hurl
  rw [follow, if_neg hblank, if_neg (Nat.not_le.2 hdepth), hurl]

/-- The URL that is asked for. -/
def asked? : Except Failure (Url × Text) → Option Url
  | .error f => f.url?
  | .ok found => some found.1

theorem asked?_follow_iff {target : Text} {url : Url} :
    asked? (follow w c target) = some url ↔
      c.depth < maxDepth ∧ w.resolve c.source target = .ok url := by
  constructor
  · intro h
    unfold follow at h
    split at h
    · cases h
    · split at h
      · cases h
      · rename_i hdeep
        cases hresolve : w.resolve c.source target with
        | error e => simp [hresolve, asked?, Failure.url?] at h
        | ok found =>
          cases hfetch : w.fetch found <;>
            simp only [hresolve, hfetch, asked?, Failure.url?, Option.some.injEq] at h <;>
            exact ⟨Nat.lt_of_not_le hdeep, congrArg Except.ok h⟩
  · rintro ⟨hdepth, hurl⟩
    rw [follow_of_resolve hdepth hurl]
    cases w.fetch url <;> rfl

/-- Only a resource that is asked for is followed. -/
theorem follow_eq_ok_iff {target : Text} {url : Url} {t : Text} :
    follow w c target = .ok (url, t) ↔
      c.depth < maxDepth ∧ w.resolve c.source target = .ok url ∧
        w.fetch url = .ok t := by
  constructor
  · intro h
    have hasked : asked? (follow w c target) = some url := by
      rw [h]
      rfl
    obtain ⟨hdepth, hurl⟩ := asked?_follow_iff.1 hasked
    rw [follow_of_resolve hdepth hurl] at h
    refine ⟨hdepth, hurl, ?_⟩
    cases hfetch : w.fetch url with
    | error e => simp [hfetch] at h
    | ok t' => simpa [hfetch] using h
  · rintro ⟨hdepth, hurl, hfetch⟩
    rw [follow_of_resolve hdepth hurl, hfetch]

/-- All that an include does apart from what it is announced by. -/
theorem include?_allowed (read : Reader) (target : Text) (isOptional : Bool) :
    include? w (c.allowed read) c line m target isOptional =
      match follow w c target with
      | .error f => (none, f.events c line m isOptional (Text.trim target))
      | .ok (url, t) =>
        (some (readIncluded read c m.store url t).1,
          asking c line m (Text.trim target) url ++ (readIncluded read c m.store url t).2) := by
  unfold include? follow
  simp only [Surroundings.resolve_trim]
  by_cases hblank : Text.trim target = []
  · simp [hblank, Failure.events, Failure.url?, Failure.notice]
  · by_cases hdeep : maxDepth ≤ c.depth
    · simp [hblank, hdeep, Context.allowed, Nat.not_lt.2 hdeep, Failure.events, Failure.url?,
        Failure.notice]
    · have hallowed : c.allowed read = some read := if_pos (Nat.lt_of_not_le hdeep)
      simp only [hblank, hdeep, hallowed, if_false]
      cases w.resolve c.source target with
      | error e => simp [Failure.events, Failure.url?, Failure.notice]
      | ok url =>
        cases hfetch : w.fetch url with
        | error e =>
          simp [includeUrl, hfetch, Failure.events, Failure.url?, Failure.notice, asking, debugNote]
        | ok t => simp [includeUrl, hfetch, asking, debugNote]

theorem included?_allowed (read : Reader) (s : Store) (target : Text) :
    included? w (c.allowed read) c s target =
      (follow w c target).toOption.map fun found =>
        (readIncluded read c s found.1 found.2).1 := by
  have hfst : (include? w (c.allowed read) c 0 { store := s } target false).1 =
      included? w (c.allowed read) c s target := include?_fst 0 { store := s } target false
  rw [← hfst, include?_allowed]
  cases follow w c target <;> rfl

/-- An executed include of a target that leads nowhere leaves everything as it is. -/
theorem step_inclusion_of_error (read : Reader) (hstate : m.state ≠ .skipped) {written : Text}
    {isOptional : Bool} {f : Failure}
    (h : follow w c (expandIn (c.scope w m.store) written) = .error f) :
    step w (c.allowed read) c line m (.inclusion written isOptional) =
      (m, debugNote c line m (.including (expandIn (c.scope w m.store) written)) ++
        f.events c line m isOptional (Text.trim (expandIn (c.scope w m.store) written))) := by
  simp only [step, if_neg hstate, stepPlain, stepInclude, include?_allowed, h]
  rfl

/-- An executed include of a target that leads to a resource merges its store. -/
theorem step_inclusion_of_ok (read : Reader) (hstate : m.state ≠ .skipped) {written : Text}
    {isOptional : Bool} {url : Url} {t : Text}
    (h : follow w c (expandIn (c.scope w m.store) written) = .ok (url, t)) :
    step w (c.allowed read) c line m (.inclusion written isOptional) =
      ({ m with store := (m.store.merge (readIncluded read c m.store url t).1 false).store },
        debugNote c line m (.including (expandIn (c.scope w m.store) written)) ++
          (asking c line m (Text.trim (expandIn (c.scope w m.store) written)) url ++
            (readIncluded read c m.store url t).2)) := by
  simp only [step, if_neg hstate, stepPlain, stepInclude, include?_allowed, h]
  rfl

/-! ## The resource that a line follows -/

/-- The resource that a line leads to, if it is an include that is executed and does not fail. -/
def followed? (w : Surroundings) (c : Context) (m : Machine) : Line → Option (Url × Text)
  | .inclusion written _ =>
    if m.state = .skipped then none
    else (follow w c (expandIn (c.scope w m.store) written)).toOption
  | _ => none

theorem followed?_eq_some_iff {l : Line} {found : Url × Text} :
    followed? w c m l = some found ↔
      ∃ written isOptional, l = .inclusion written isOptional ∧ m.state ≠ .skipped ∧
        follow w c (expandIn (c.scope w m.store) written) = .ok found := by
  cases l with
  | inclusion written isOptional =>
    by_cases hstate : m.state = .skipped
    · simp [followed?, hstate]
    · cases hfollow : follow w c (expandIn (c.scope w m.store) written) <;>
        simp [followed?, hstate, hfollow, Except.toOption]
  | _ => simp [followed?]

/-- A line depends on the reader only at the resource that it leads to. -/
theorem step_congr {read read' : Reader} {l : Line}
    (h : ∀ url t, followed? w c m l = some (url, t) →
      read (c.below url m.store) (m.store.opened url) t =
        read' (c.below url m.store) (m.store.opened url) t) :
    step w (c.allowed read) c line m l = step w (c.allowed read') c line m l := by
  cases l with
  | inclusion written isOptional =>
    by_cases hstate : m.state = .skipped
    · simp [step, hstate]
    · cases hfollow : follow w c (expandIn (c.scope w m.store) written) with
      | error f =>
        rw [step_inclusion_of_error read hstate hfollow,
          step_inclusion_of_error read' hstate hfollow]
      | ok found =>
        obtain ⟨url, t⟩ := found
        have hsame := h url t (followed?_eq_some_iff.2 ⟨_, _, rfl, hstate, hfollow⟩)
        rw [Store.opened] at hsame
        rw [step_inclusion_of_ok read hstate hfollow, step_inclusion_of_ok read' hstate hfollow,
          readIncluded, readIncluded, hsame]
  | _ => rfl

theorem runLines_congr {read read' : Reader}
    (h : ∀ url s t, read (c.below url s) (s.opened url) t = read' (c.below url s) (s.opened url) t)
    (line : Nat) (m : Machine) (lines : List Line) :
    runLines w (c.allowed read) c line m lines = runLines w (c.allowed read') c line m lines := by
  induction lines generalizing line m with
  | nil => rfl
  | cons l lines ih =>
    have hstep : step w (c.allowed read) c line m l = step w (c.allowed read') c line m l :=
      step_congr fun url t _ => h url m.store t
    rw [runLines_cons, runLines_cons, hstep, ih]

/-! ## Interpreting in a context -/

/-- Induction from the greatest depth upwards: what holds of a context if it holds of all those
below it, as far as there are any, holds of every context. -/
@[elab_as_elim]
theorem Context.below_induction {motive : Context → Prop}
    (step : ∀ c, (c.depth < maxDepth → ∀ url s, motive (c.below url s)) → motive c)
    (c : Context) : motive c := by
  induction hlevels : maxDepth - c.depth generalizing c with
  | zero =>
    refine step c fun hdepth => ?_
    omega
  | succ levels ih =>
    refine step c fun _ url s => ih (c.below url s) ?_
    show maxDepth - (c.depth + 1) = levels
    omega

/-- Interprets a text, which may include others as deep as the depth of its context allows. -/
def interpretIn (w : Surroundings) : Reader := fun c s t => interpret w (maxDepth - c.depth) c s t

theorem readerAt_eq_allowed :
    readerAt w (maxDepth - c.depth) = c.allowed (interpret w (maxDepth - (c.depth + 1))) := by
  by_cases hdepth : c.depth < maxDepth
  · obtain ⟨levels, hlevels⟩ : ∃ levels, maxDepth - c.depth = levels + 1 :=
      Nat.exists_eq_add_one_of_ne_zero (by omega)
    have hbelow : maxDepth - (c.depth + 1) = levels := by omega
    rw [hlevels, hbelow, Context.allowed, if_pos hdepth, readerAt]
  · have hlevels : maxDepth - c.depth = 0 := by omega
    rw [hlevels, Context.allowed, if_neg hdepth, readerAt]

/-- What is included is interpreted in the same way, unless the context is at the greatest
depth. -/
theorem interpretIn_eq (s : Store) (t : Text) :
    interpretIn w c s t = runText w (c.allowed (interpretIn w)) c s t := by
  have hbelow : ∀ url s t, interpret w (maxDepth - (c.depth + 1)) (c.below url s) (s.opened url) t =
      interpretIn w (c.below url s) (s.opened url) t := fun _ _ _ => rfl
  rw [interpretIn, interpret_eq_runText, readerAt_eq_allowed, runText, runText,
    runLines_congr hbelow]

end PropertyConfig
