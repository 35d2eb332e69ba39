import PropertyConfig.Proofs.Line
import PropertyConfig.Proofs.Load.Place
import PropertyConfig.Proofs.Store.Merging

/-!
# Stores of a load

All stores of a load go by its policy, have distinct keys, and hold only entries that can be merged
as they are (`Store.Loaded`): lines keep them so, at any depth (`loaded_interpretIn`), so are the
stores of the texts that are visited (`Visits.loaded`), and so is the store that a load produces in
the end (`Loader.loaded_load`).
-/

namespace PropertyConfig

variable {w : Surroundings} {c c₀ : Context} {s s₀ : Store} {t t₀ : Text} {p : Policy}

theorem Store.Loaded.opened (h : s.Loaded p) (url : Url) : (s.opened url).Loaded p :=
  h.emptied.set_reserved .configUrl url.text

section

variable {read : Reader}
  (hread : c.depth < maxDepth → ∀ (s : Store) (url : Url) (t : Text), s.Loaded p →
    (read (c.below url s) (s.opened url) t).store.Loaded p)

include hread

theorem loaded_executed (h : s.Loaded p) (raw : Text) :
    (executed w (c.allowed read) c s (Line.read raw)).Loaded p := by
  cases hraw : Line.read raw with
  | property key value =>
    obtain ⟨d, rest, rfl, hd⟩ := Line.exists_of_read_eq_property hraw
    exact h.set_property hd rest value
  | reserved key value => exact h.set_reserved key value
  | inclusion target isOptional =>
    rw [executed, included?_allowed]
    cases hfollow : follow w c (expandIn (c.scope w s) target) with
    | error f => exact h
    | ok found =>
      obtain ⟨url, t⟩ := found
      have hdepth := (follow_eq_ok_iff.1 hfollow).1
      exact h.merge ((hread hdepth s url t h).remove configUrlKey) false
  | _ => exact h

theorem loaded_runLines {m : Machine} (h : m.store.Loaded p) (line : Nat) (raws : List Text) :
    (runLines w (c.allowed read) c line m (raws.map Line.read)).1.store.Loaded p := by
  refine runLines_invariant (fun before l after hlines _ hs => ?_) h
  obtain ⟨raw, -, rfl⟩ : ∃ raw ∈ raws, Line.read raw = l :=
    List.mem_map.1 (hlines ▸ List.mem_append_right before List.mem_cons_self)
  exact loaded_executed hread hs raw

end

/-- Interpreting a text keeps the store so. -/
theorem loaded_interpretIn (h : s.Loaded p) : (interpretIn w c s t).store.Loaded p := by
  induction c using Context.below_induction generalizing s t with
  | step c ih =>
    rw [interpretIn_eq]
    exact loaded_runLines (fun hdepth s url t hs => ih hdepth url s (hs.opened url)) h 1 _

theorem Place.loaded (q : Place w c s t) (h : s.Loaded p) : q.machine.store.Loaded p :=
  loaded_runLines (fun _ _ url _ hs => loaded_interpretIn (hs.opened url)) h 1 _

theorem Visits.loaded (h : Visits w c₀ s₀ t₀ c s t) (h₀ : s₀.Loaded p) : s.Loaded p := by
  induction h with
  | start => exact h₀
  | @included c s t url child _ i _ ih => exact (i.toPlace.loaded ih).opened url

theorem Loader.loaded_rootStore (l : Loader) (source : Option Url) :
    (l.rootStore source).Loaded l.policy := by
  cases source with
  | none => exact .empty l.policy
  | some url => exact (Store.Loaded.empty l.policy).set_reserved .configUrl url.text

theorem Loader.loaded_of_reads {l : Loader} {root : Loader.Root} (h : l.Reads root c s t) :
    s.Loaded l.policy := by
  cases root with
  | text t₀ => exact Visits.loaded h (l.loaded_rootStore none)
  | url url =>
    obtain ⟨source, t₀, -, -, hvisits⟩ := h
    exact Visits.loaded hvisits (l.loaded_rootStore (some source))

theorem Loader.loaded_interpretRoot (l : Loader) (source : Option Url) (t₀ : Text) :
    (l.interpretRoot source t₀).store.Loaded l.policy := by
  rw [interpretRoot_eq]
  exact loaded_interpretIn (l.loaded_rootStore source)

theorem Loader.loaded_loadRoot {l : Loader} {source : Option Url} {r : LoadReport}
    (hr : (l.loadRoot source t₀).result = .ok r) : r.store.Loaded l.policy := by
  have hloaded := l.loaded_interpretRoot source t₀
  obtain rfl := Except.ok.inj hr
  cases hname : l.includeName with
  | true => simpa [hname] using hloaded
  | false => simpa [hname] using hloaded.remove nameKey

/-- What a load produces is such a store. -/
theorem Loader.loaded_load {l : Loader} {root : Loader.Root} {r : LoadReport}
    (hr : (l.load root).result = .ok r) : r.store.Loaded l.policy := by
  cases root with
  | text t₀ => exact loaded_loadRoot hr
  | url url =>
    obtain ⟨source, t₀, -, -, hload⟩ := exists_of_load_url hr
    rw [hload] at hr
    exact loaded_loadRoot hr

end PropertyConfig
