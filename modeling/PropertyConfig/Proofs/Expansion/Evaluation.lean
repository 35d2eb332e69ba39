import Mathlib.Data.Set.Finite.List
import Mathlib.Logic.Relation
import Mathlib.Order.WellFounded
import PropertyConfig.Proofs.Expansion.Template

/-!
# Evaluation of templates

Replacing the outermost references of a template takes one level off it and keeps its value
(`Evaluates.unfold`). A template has at most one value (`Evaluates.unique`), and it has one if
finitely many keys are defined and references are acyclic (`exists_evaluates`).
-/

namespace PropertyConfig

namespace Template

/-! ## Templates after a pass -/

def append : Template → Template → Template
  | .done, u => u
  | .literal t rest, u => .literal t (append rest u)
  | .escaped body rest, u => .escaped body (append rest u)
  | .reference key argument rest, u => .reference key argument (append rest u)
  | .referenceOr key argument fallback rest, u =>
    .referenceOr key argument fallback (append rest u)

theorem text_append (t u : Template) : (t.append u).text = t.text ++ u.text := by
  induction t <;> simp_all [append, text]

theorem append_done (t : Template) : t.append .done = t := by
  induction t <;> simp_all [append]

theorem append_assoc (t u w : Template) : (t.append u).append w = t.append (u.append w) := by
  induction t <;> simp_all [append]

theorem isWellFormed_append {t u : Template} (ht : t.isWellFormed) (hu : u.isWellFormed) :
    (t.append u).isWellFormed := by
  induction t <;> simp_all [append, isWellFormed]

/-- The template with every reference outside fallbacks replaced. -/
def unfold (v : Definitions) : Template → Template
  | .done => .done
  | .literal t rest => .literal t (unfold v rest)
  | .escaped body rest => .escaped body (unfold v rest)
  | .reference key _ rest => ((v key).getD .done).append (unfold v rest)
  | .referenceOr key _ fallback rest => ((v key).getD fallback).append (unfold v rest)

theorem unfold_append (v : Definitions) (t u : Template) :
    (t.append u).unfold v = (t.unfold v).append (u.unfold v) := by
  induction t <;> simp_all [append, unfold, append_assoc]

theorem isWellFormed_unfold {v : Definitions} (hv : ∀ k t, v k = some t → t.isWellFormed)
    {t : Template} (ht : t.isWellFormed) : (t.unfold v).isWellFormed := by
  have hgetD : ∀ key fallback, isWellFormed fallback → ((v key).getD fallback).isWellFormed := by
    intro key fallback hf
    cases hk : v key with
    | none => exact hf
    | some u => exact hv key u hk
  induction t with
  | done => rfl
  | literal t rest ih | escaped t rest ih =>
    simp only [isWellFormed, Bool.and_eq_true] at ht
    simpa [unfold, isWellFormed, ht.1] using ih ht.2
  | reference key argument rest ih =>
    simp only [isWellFormed, Bool.and_eq_true] at ht
    exact isWellFormed_append (hgetD key _ rfl) (ih ht.2)
  | referenceOr key argument fallback rest _ ih =>
    simp only [isWellFormed, Bool.and_eq_true] at ht
    exact isWellFormed_append (hgetD key _ ht.1.1.1.2) (ih ht.2)

/-! ## What evaluation does -/

variable {v : Definitions}

theorem Evaluates.append {t u : Template} {d₁ d₂ : Nat} {o₁ o₂ : Text} (ht : Evaluates v t d₁ o₁)
    (hu : Evaluates v u d₂ o₂) : Evaluates v (t.append u) (max d₁ d₂) (o₁ ++ o₂) := by
  induction ht with
  | done => simpa [Template.append] using hu
  | literal _ ih =>
    rw [List.append_assoc]
    exact .literal ih
  | escaped _ ih =>
    rw [List.append_assoc]
    exact .escaped ih
  | reference hk _ _ ih =>
    rw [List.append_assoc, max_assoc]
    exact .reference hk ih
  | referenceOr hk _ _ ih =>
    rw [List.append_assoc, max_assoc]
    exact .referenceOr hk ih

/-- Replacing the references of a template takes one level off it and keeps its value. -/
theorem Evaluates.unfold {t : Template} {d : Nat} {out : Text} (h : Evaluates v t d out) :
    Evaluates v (t.unfold v) (d - 1) out := by
  induction h with
  | done => exact .done
  | literal _ ih => exact .literal ih
  | escaped _ ih => exact .escaped ih
  | @reference _ _ _ d₁ d₂ _ _ hk _ _ ih =>
    have hd : max (d₁ + 1) d₂ - 1 = max d₁ (d₂ - 1) := by omega
    rw [hd]
    exact hk.append ih
  | @referenceOr _ _ _ _ d₁ d₂ _ _ hk _ _ ih =>
    have hd : max (d₁ + 1) d₂ - 1 = max d₁ (d₂ - 1) := by omega
    rw [hd]
    exact hk.append ih

/-- Without references a template is its own value. -/
theorem Evaluates.text_eq {t : Template} {out : Text} (h : Evaluates v t 0 out) : t.text = out := by
  generalize hd : 0 = d at h
  induction h with
  | done => rfl
  | literal _ ih => rw [text, ih hd]
  | escaped _ ih => rw [text, ih hd]
  | reference => omega
  | referenceOr => omega

theorem Evaluates.text_iterate {t : Template} {d : Nat} {out : Text} (h : Evaluates v t d out) :
    ((Template.unfold v)^[d] t).text = out := by
  induction d generalizing t with
  | zero => exact h.text_eq
  | succ d ih => exact ih h.unfold

theorem Evaluates.unique {t : Template} {d d' : Nat} {out out' : Text} (h : Evaluates v t d out)
    (h' : Evaluates v t d' out') : d' = d ∧ out' = out := by
  induction h generalizing d' out' with
  | done => cases h'; exact ⟨rfl, rfl⟩
  | literal _ ih =>
    cases h' with
    | literal h' => obtain ⟨rfl, rfl⟩ := ih h'; exact ⟨rfl, rfl⟩
  | escaped _ ih =>
    cases h' with
    | escaped h' => obtain ⟨rfl, rfl⟩ := ih h'; exact ⟨rfl, rfl⟩
  | reference _ _ ihk ih =>
    cases h' with
    | reference hk h' =>
      obtain ⟨rfl, rfl⟩ := ihk hk
      obtain ⟨rfl, rfl⟩ := ih h'
      exact ⟨rfl, rfl⟩
  | referenceOr _ _ ihk ih =>
    cases h' with
    | referenceOr hk h' =>
      obtain ⟨rfl, rfl⟩ := ihk hk
      obtain ⟨rfl, rfl⟩ := ih h'
      exact ⟨rfl, rfl⟩

/-- A template has a value if the templates of all its keys have one. -/
theorem exists_evaluates_of_keys {t : Template}
    (h : ∀ k ∈ t.keys, ∀ u, v k = some u → ∃ d out, Evaluates v u d out) :
    ∃ d out, Evaluates v t d out := by
  induction t with
  | done => exact ⟨0, [], .done⟩
  | literal t rest ih =>
    obtain ⟨d, out, hrest⟩ := ih h
    exact ⟨d, t ++ out, .literal hrest⟩
  | escaped body rest ih =>
    obtain ⟨d, out, hrest⟩ := ih h
    exact ⟨d, escapedText body ++ out, .escaped hrest⟩
  | reference key argument rest ih =>
    obtain ⟨d₂, o₂, hrest⟩ := ih fun k hk => h k (List.mem_cons_of_mem _ hk)
    obtain ⟨d₁, o₁, hkey⟩ : ∃ d out, Evaluates v ((v key).getD .done) d out := by
      cases hk : v key with
      | none => exact ⟨0, [], .done⟩
      | some u => exact h key (by simp [keys]) u hk
    exact ⟨_, _, .reference hkey hrest⟩
  | referenceOr key argument fallback rest ihf ih =>
    obtain ⟨d₂, o₂, hrest⟩ := ih fun k hk => h k (by simp [keys, hk])
    obtain ⟨d₁, o₁, hkey⟩ : ∃ d out, Evaluates v ((v key).getD fallback) d out := by
      cases hk : v key with
      | none => exact ihf fun k hk => h k (by simp [keys, hk])
      | some u => exact h key (by simp [keys]) u hk
    exact ⟨_, _, .referenceOr hkey hrest⟩

/-- With finitely many keys and acyclic references every template has a value. -/
theorem exists_evaluates {defined : List Text} (hfin : ∀ k, v k ≠ none → k ∈ defined)
    (hacyclic : Acyclic v) (t : Template) : ∃ d out, Evaluates v t d out := by
  have hwf : WellFounded fun a b : {k // k ∈ defined} =>
      Relation.TransGen (RefersTo v) b.1 a.1 := by
    have : Finite {k // k ∈ defined} := (List.finite_toSet defined).to_subtype
    have : IsTrans {k // k ∈ defined} fun a b => Relation.TransGen (RefersTo v) b.1 a.1 :=
      ⟨fun _ _ _ hab hbc => hbc.trans hab⟩
    have : Std.Irrefl fun a b : {k // k ∈ defined} =>
        Relation.TransGen (RefersTo v) b.1 a.1 := ⟨fun a => hacyclic a.1⟩
    exact Finite.wellFounded_of_trans_of_irrefl _
  have hkey : ∀ k : {k // k ∈ defined}, ∀ u, v k.1 = some u → ∃ d out, Evaluates v u d out := by
    intro k
    induction k using hwf.induction with
    | _ k ih =>
      intro u hu
      refine exists_evaluates_of_keys fun other hother w hw => ?_
      have hmem : other ∈ defined := hfin other (by simp [hw])
      exact ih ⟨other, hmem⟩ (.single ⟨u, hu, hother⟩) w hw
  refine exists_evaluates_of_keys fun k _ u hu => ?_
  exact hkey ⟨k, hfin k (by simp [hu])⟩ u hu

end Template

end PropertyConfig
