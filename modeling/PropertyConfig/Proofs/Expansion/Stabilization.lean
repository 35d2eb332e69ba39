import Mathlib
import PropertyConfig.Proofs.Expansion.References

/-!
# Passes without end

Passes over a text come to rest exactly if from some pass on none of them forgets where something
came from (`comes_to_rest_iff`). A pass forgets where a fallback counts as coming out of the keys of
its reference's `$`, although part of the reference came out of others (`Forgets`).

As long as nothing is forgotten the `weight` of the text goes down with every reference that is
replaced: a `$` weighs more than all those that its reference can bring in, and it can bring in
others only as often as there are keys left that it did not come out of. Where passes forget, the
text can grow for ever (`after_growing`).
-/

namespace PropertyConfig

namespace Expander

/-- Expansion of references to keys with fixed values. -/
def ofValues (values : List (Text × Text)) (filter : Text → Text) (mainKey : Option Text) :
    Expander :=
  { lookup := fun r => values.lookup r.key, filter, mainKey }

/-- The text after `n` passes. -/
def after (x : Expander) (n : Nat) (text : Text) : List Glyph := x.pass^[n] (x.start text)

/-- The next pass replaces a reference by its fallback, and something in the reference came out of a
key that the fallback will not count as coming out of. -/
def Forgets (x : Expander) (text : List Glyph) : Prop :=
  ∃ written r origin, .reference written r origin ∈ pieces x.delimiters text ∧
    x.lookup r = none ∧ ∃ g ∈ written, ¬ g.origin ⊆ origin

theorem after_succ (x : Expander) (n : Nat) (text : Text) :
    x.after (n + 1) text = x.pass (x.after n text) :=
  Function.iterate_succ_apply' _ _ _

/-! ## Texts at rest -/

/-- What starts alike and is no longer is the front of it. -/
theorem exists_append_of_append_eq {α : Type} {a b c d : List α} (h : a ++ b = c ++ d)
    (hle : a.length ≤ c.length) : ∃ u, c = a ++ u ∧ b = u ++ d := by
  have hc : c <+: a ++ b := h ▸ List.prefix_append c d
  obtain ⟨u, rfl⟩ := List.prefix_of_prefix_length_le (List.prefix_append a b) hc hle
  refine ⟨u, rfl, ?_⟩
  rwa [List.append_assoc, List.append_cancel_left_eq] at h

/-- What a reference is replaced by does not reach its `$` if that stands behind `u`: the glyphs of
a value came out of another key, and a fallback is too short. -/
theorem length_substitute_lt {x : Expander} {u rest tail tail' : List Glyph} {r : Reference}
    {origin : List Text} (hfallback : r.fallback.length ≤ rest.length)
    (h : x.substitute (.reference (⟨'$', origin⟩ :: rest) r origin) ++ tail =
      u ++ (⟨'$', origin⟩ :: rest ++ tail')) :
    (x.substitute (.reference (⟨'$', origin⟩ :: rest) r origin)).length <
      (u ++ ⟨'$', origin⟩ :: rest).length := by
  rw [substitute] at h ⊢
  cases hr : x.lookup r with
  | none =>
    simp only [Glyph.ofText, List.length_map, List.length_append, List.length_cons]
    omega
  | some value =>
    simp only [hr] at h ⊢
    by_contra hlong
    have hu : u.length ≤ (Glyph.ofText (r.key :: origin) (x.filter value)).length := by
      rw [List.length_append] at hlong
      omega
    obtain ⟨w, hw, hrest⟩ := exists_append_of_append_eq h.symm hu
    cases w with
    | nil =>
      rw [hw] at hlong
      simp at hlong
    | cons g w =>
      obtain ⟨rfl, -⟩ : ⟨'$', origin⟩ = g ∧ _ := by simpa using hrest
      have hmem : ⟨'$', origin⟩ ∈ Glyph.ofText (r.key :: origin) (x.filter value) := by
        rw [hw]
        simp
      simp [Glyph.ofText] at hmem

/-- Going over the pieces from left to right, `u` is what was written but has not been made up for.
Once there is something, it is never made up for. -/
theorem no_reference_of_substitute_eq {x : Expander} {ps : List Piece}
    (hps : ∀ written r origin, .reference written r origin ∈ ps →
      ∃ rest, written = ⟨'$', origin⟩ :: rest ∧ r.fallback.length ≤ rest.length)
    {u : List Glyph} (h : ps.flatMap x.substitute = u ++ ps.flatMap Piece.written) :
    u = [] ∧ ps.filterMap Piece.reference? = [] := by
  induction ps generalizing u with
  | nil => simpa using h.symm
  | cons p ps ih =>
    have ih := @ih fun written r origin hmem => hps written r origin (List.mem_cons_of_mem _ hmem)
    simp only [List.flatMap_cons] at h
    have hkept : x.substitute p = p.written → p.reference? = none →
        u = [] ∧ (p :: ps).filterMap Piece.reference? = [] := by
      intro hp hnone
      rw [hp, ← List.append_assoc] at h
      obtain ⟨w, hw, hrest⟩ := exists_append_of_append_eq h (by simp)
      obtain ⟨rfl, hnext⟩ := ih hrest
      have hlength := congrArg List.length hw
      refine ⟨List.eq_nil_of_length_eq_zero ?_, by simpa [hnone] using hnext⟩
      simp only [List.length_append, List.length_nil] at hlength
      omega
    cases p with
    | kept written => exact hkept rfl rfl
    | held written r => exact hkept rfl rfl
    | reference written r origin =>
      obtain ⟨rest, rfl, hfallback⟩ := hps written r origin List.mem_cons_self
      have hlt := length_substitute_lt hfallback h
      rw [Piece.written, ← List.append_assoc] at h
      obtain ⟨w, hw, hrest⟩ := exists_append_of_append_eq h hlt.le
      obtain ⟨rfl, -⟩ := ih hrest
      rw [hw] at hlt
      simp at hlt

/-- A pass leaves a text as it is, origins included, exactly if it looks nothing up. -/
theorem pass_eq_self_iff {x : Expander} (hx : x.delimiters = {}) {text : List Glyph} :
    x.pass text = text ↔ x.lookups text = [] := by
  have hwritten : (pieces x.delimiters text).flatMap Piece.written = text :=
    pieces_written (by simp [hx]) text
  constructor
  · intro h
    refine (no_reference_of_substitute_eq (x := x) (u := []) ?_ ?_).2
    · intro written r origin hmem
      rw [hx] at hmem
      obtain ⟨rest, hrest, -, -, hfallback⟩ := exists_of_reference_mem hmem
      exact ⟨rest, hrest, by simpa [Glyph.chars] using hfallback.length_le⟩
    · rw [List.nil_append, hwritten]
      exact h
  · intro h
    have hsubstitute : ∀ p ∈ pieces x.delimiters text, x.substitute p = p.written := by
      intro p hp
      have hnone : p.reference? = none := List.filterMap_eq_nil_iff.1 h p hp
      cases p <;> simp_all [Piece.reference?, substitute, Piece.written]
    rw [pass, List.flatMap_congr hsubstitute, hwritten]

/-! ## Where the glyphs of a text came from -/

/-- The glyphs came out of some of the keys, and each out of no key twice. -/
def Traced (known : List Text) (text : List Glyph) : Prop :=
  ∀ g ∈ text, g.origin.Nodup ∧ g.origin ⊆ known

/-- The keys that anything in a text can come out of. -/
def known (values : List (Text × Text)) (mainKey : Option Text) : List Text :=
  mainKey.toList ++ values.map Prod.fst

section
variable {values : List (Text × Text)} {filter : Text → Text} {mainKey : Option Text}

theorem mem_known {r : Reference} (h : ((ofValues values filter mainKey).lookup r).isSome) :
    r.key ∈ known values mainKey := by
  refine List.mem_append_right _ ?_
  simpa [ofValues, List.lookup_isSome_iff] using h

theorem traced_start (text : Text) :
    Traced (known values mainKey) ((ofValues values filter mainKey).start text) := by
  intro g hg
  simp only [start, Glyph.ofText, List.mem_map] at hg
  obtain ⟨c, -, rfl⟩ := hg
  refine ⟨?_, List.subset_append_left _ _⟩
  cases mainKey <;> simp [ofValues]

theorem traced_pass {text : List Glyph} (h : Traced (known values mainKey) text) :
    Traced (known values mainKey) ((ofValues values filter mainKey).pass text) := by
  intro g hg
  rcases mem_pass rfl hg with hg | ⟨written, r, origin, hp, horigin⟩
  · exact h g hg
  · obtain ⟨rest, rfl, hsub, hkey, -⟩ := exists_of_reference_mem hp
    obtain ⟨hnodup, hknown⟩ := h ⟨'$', origin⟩ (hsub List.mem_cons_self)
    rw [horigin]
    split
    · rename_i hdefined
      exact ⟨List.nodup_cons.2 ⟨hkey, hnodup⟩, List.cons_subset.2 ⟨mem_known hdefined, hknown⟩⟩
    · exact ⟨hnodup, hknown⟩

theorem traced_after (n : Nat) (text : Text) :
    Traced (known values mainKey) ((ofValues values filter mainKey).after n text) := by
  induction n with
  | zero => exact traced_start text
  | succ n ih =>
    rw [after_succ]
    exact traced_pass ih

end

/-! ## The weight of a text -/

/-- A `$` can start a reference to each of the keys that it did not come out of; `base` is more than
the number of `$` in any value, and `keys` is the number of all keys. -/
def weight (base keys : Nat) (text : List Glyph) : Nat :=
  (text.map fun g => if g.char = '$' then base ^ (keys - g.origin.length) else 0).sum

@[simp] theorem weight_append (base keys : Nat) (a b : List Glyph) :
    weight base keys (a ++ b) = weight base keys a + weight base keys b := by
  simp [weight]

theorem weight_ofText (base keys : Nat) (origin : List Text) (t : Text) :
    weight base keys (Glyph.ofText origin t) = t.count '$' * base ^ (keys - origin.length) := by
  induction t with
  | nil => simp [weight, Glyph.ofText]
  | cons c t ih =>
    have hcons : Glyph.ofText origin (c :: t) = [⟨c, origin⟩] ++ Glyph.ofText origin t := rfl
    rw [hcons, weight_append, ih, List.count_cons]
    by_cases hc : c = '$'
    · simp [weight, hc, Nat.add_mul, Nat.add_comm]
    · simp [weight, hc]

/-- The fewer keys the glyphs came out of, the more a text weighs. -/
theorem count_mul_le_weight {base keys n : Nat} (hbase : 0 < base) {text : List Glyph}
    (h : ∀ g ∈ text, g.origin.length ≤ n) :
    (Glyph.chars text).count '$' * base ^ (keys - n) ≤ weight base keys text := by
  induction text with
  | nil => simp [Glyph.chars]
  | cons g text ih =>
    have ih := ih fun e he => h e (List.mem_cons_of_mem _ he)
    have hchars : Glyph.chars (g :: text) = g.char :: Glyph.chars text := rfl
    have hweight : weight base keys (g :: text) =
        (if g.char = '$' then base ^ (keys - g.origin.length) else 0) + weight base keys text := by
      simp [weight]
    rw [hchars, hweight, List.count_cons]
    by_cases hc : g.char = '$'
    · have hpow : base ^ (keys - n) ≤ base ^ (keys - g.origin.length) :=
        Nat.pow_le_pow_right hbase (Nat.sub_le_sub_left (h g List.mem_cons_self) keys)
      simp only [hc, beq_self_eq_true, if_true, Nat.add_mul, Nat.one_mul]
      omega
    · simpa [hc] using ih

/-- More than the number of `$` in any of the values. -/
def base (values : List (Text × Text)) (filter : Text → Text) : Nat :=
  (values.map fun e => (filter e.2).count '$').sum + 1

theorem count_lt_base {values : List (Text × Text)} {filter : Text → Text} {key value : Text}
    (h : values.lookup key = some value) : (filter value).count '$' < base values filter := by
  obtain ⟨a, b, rfl, -⟩ := List.lookup_eq_some_iff.1 h
  simp only [base, List.map_append, List.map_cons, List.sum_append, List.sum_cons]
  omega

/-- A fallback weighs less than a reference no part of which came out of more keys than its `$`: at
least the `$` goes. -/
theorem weight_fallback_lt {base keys : Nat} (hbase : 0 < base) {origin : List Text}
    {rest : List Glyph} (hlength : ∀ g ∈ ⟨'$', origin⟩ :: rest, g.origin.length ≤ origin.length)
    {fallback : Text} (hfallback : fallback.Sublist (Glyph.chars rest)) :
    weight base keys (Glyph.ofText origin fallback) < weight base keys (⟨'$', origin⟩ :: rest) := by
  have hcount : fallback.count '$' < (Glyph.chars (⟨'$', origin⟩ :: rest)).count '$' := by
    have hle := hfallback.count_le '$'
    simp only [Glyph.chars, List.map_cons, List.count_cons_self] at hle ⊢
    omega
  calc weight base keys (Glyph.ofText origin fallback)
      = fallback.count '$' * base ^ (keys - origin.length) := weight_ofText _ _ _ _
    _ < (Glyph.chars (⟨'$', origin⟩ :: rest)).count '$' * base ^ (keys - origin.length) :=
        Nat.mul_lt_mul_of_pos_right hcount (Nat.pow_pos hbase)
    _ ≤ weight base keys (⟨'$', origin⟩ :: rest) := count_mul_le_weight hbase hlength

/-- A value weighs less than the `$` of the reference that it takes the place of: it comes out of
one key more. -/
theorem weight_value_lt {base keys : Nat} (hbase : 0 < base) {origin : List Text}
    (hroom : origin.length + 1 ≤ keys) {value : Text} (hcount : value.count '$' < base)
    (key : Text) (rest : List Glyph) :
    weight base keys (Glyph.ofText (key :: origin) value) <
      weight base keys (⟨'$', origin⟩ :: rest) := by
  have hpow : base ^ (keys - origin.length) = base * base ^ (keys - (origin.length + 1)) := by
    rw [← Nat.pow_succ']
    congr 1
    omega
  have hdollar : weight base keys (⟨'$', origin⟩ :: rest) =
      base ^ (keys - origin.length) + weight base keys rest := by
    simp [weight]
  calc weight base keys (Glyph.ofText (key :: origin) value)
      = value.count '$' * base ^ (keys - (origin.length + 1)) := weight_ofText _ _ _ _
    _ < base * base ^ (keys - (origin.length + 1)) :=
        Nat.mul_lt_mul_of_pos_right hcount (Nat.pow_pos hbase)
    _ = base ^ (keys - origin.length) := hpow.symm
    _ ≤ weight base keys (⟨'$', origin⟩ :: rest) := by
        rw [hdollar]
        exact Nat.le_add_right _ _

section
variable {values : List (Text × Text)} {filter : Text → Text} {mainKey : Option Text}

/-- Unless something is forgotten, what a reference is replaced by weighs less. -/
theorem weight_substitute_lt {text written : List Glyph} {r : Reference} {origin : List Text}
    (htraced : Traced (known values mainKey) text)
    (hforgets : ¬ (ofValues values filter mainKey).Forgets text)
    (hp : .reference written r origin ∈ pieces {} text) :
    weight (base values filter) (known values mainKey).length
        ((ofValues values filter mainKey).substitute (.reference written r origin)) <
      weight (base values filter) (known values mainKey).length written := by
  obtain ⟨rest, rfl, hsub, hkey, hfallback⟩ := exists_of_reference_mem hp
  have hbase : 0 < base values filter := Nat.succ_pos _
  obtain ⟨hnodup, hknown⟩ := htraced ⟨'$', origin⟩ (hsub List.mem_cons_self)
  rw [substitute]
  cases hr : (ofValues values filter mainKey).lookup r with
  | none =>
    -- the whole reference came out of keys that its `$` came out of
    have hlength : ∀ g ∈ ⟨'$', origin⟩ :: rest, g.origin.length ≤ origin.length := by
      intro g hg
      have hsubset : g.origin ⊆ origin := by
        by_contra hnot
        exact hforgets ⟨_, r, origin, hp, hr, g, hg, hnot⟩
      exact ((htraced g (hsub hg)).1.subperm hsubset).length_le
    exact weight_fallback_lt hbase hlength hfallback
  | some value =>
    have hmem : r.key ∈ known values mainKey := mem_known (by rw [hr]; rfl)
    have hroom : origin.length + 1 ≤ (known values mainKey).length :=
      ((List.nodup_cons.2 ⟨hkey, hnodup⟩).subperm (List.cons_subset.2 ⟨hmem, hknown⟩)).length_le
    exact weight_value_lt hbase hroom (count_lt_base hr) r.key rest

/-- Unless something is forgotten, a text loses weight with every reference that a pass replaces. -/
theorem weight_pass_add_length_le {text : List Glyph}
    (htraced : Traced (known values mainKey) text)
    (hforgets : ¬ (ofValues values filter mainKey).Forgets text) :
    weight (base values filter) (known values mainKey).length
        ((ofValues values filter mainKey).pass text) +
        ((ofValues values filter mainKey).lookups text).length ≤
      weight (base values filter) (known values mainKey).length text := by
  have hpieces : ∀ ps ⊆ pieces {} text,
      weight (base values filter) (known values mainKey).length
          (ps.flatMap (ofValues values filter mainKey).substitute) +
          (ps.filterMap Piece.reference?).length ≤
        weight (base values filter) (known values mainKey).length (ps.flatMap Piece.written) := by
    intro ps
    induction ps with
    | nil => simp
    | cons p ps ih =>
      intro hps
      obtain ⟨hp, hps⟩ := List.cons_subset.1 hps
      have ih := ih hps
      simp only [List.flatMap_cons, weight_append]
      cases p with
      | kept written =>
        simp only [substitute, Piece.written, List.filterMap_cons, Piece.reference?]
        omega
      | held written r =>
        simp only [substitute, Piece.written, List.filterMap_cons, Piece.reference?]
        omega
      | reference written r origin =>
        have hlt := weight_substitute_lt htraced hforgets hp
        simp only [List.filterMap_cons, Piece.reference?, List.length_cons, Piece.written]
        omega
  have h := hpieces _ (List.Subset.refl _)
  rwa [pieces_written (by simp)] at h

/-- A text from which nothing is forgotten any more comes to a pass that looks nothing up. -/
theorem exists_lookups_eq_nil {n : Nat} {text : Text}
    (h : ∀ m, n ≤ m → ¬ (ofValues values filter mainKey).Forgets
      ((ofValues values filter mainKey).after m text)) :
    ∃ m, n ≤ m ∧ (ofValues values filter mainKey).lookups
      ((ofValues values filter mainKey).after m text) = [] := by
  generalize hw : weight (base values filter) (known values mainKey).length
    ((ofValues values filter mainKey).after n text) = w
  induction w using Nat.strong_induction_on generalizing n with
  | _ w ih =>
    by_cases hnone : (ofValues values filter mainKey).lookups
        ((ofValues values filter mainKey).after n text) = []
    · exact ⟨n, Nat.le_refl n, hnone⟩
    · have hle := weight_pass_add_length_le (traced_after n text) (h n (Nat.le_refl n))
      have hpos := List.length_pos_iff.2 hnone
      rw [← after_succ, hw] at hle
      obtain ⟨m, hm, hnil⟩ := ih _ (by omega) (n := n + 1) (fun m hm => h m (by omega)) rfl
      exact ⟨m, by omega, hnil⟩

end

theorem after_eq_of_lookups_eq_nil {x : Expander} (hx : x.delimiters = {}) {n : Nat} {text : Text}
    (h : x.lookups (x.after n text) = []) {m : Nat} (hm : n ≤ m) :
    x.after m text = x.after n text := by
  obtain ⟨k, rfl⟩ := Nat.exists_eq_add_of_le' hm
  rw [after, Function.iterate_add_apply]
  exact Function.iterate_fixed ((pass_eq_self_iff hx).2 h) k

/-- Where nothing is looked up, nothing is forgotten. -/
theorem not_forgets_of_lookups_eq_nil {x : Expander} {text : List Glyph}
    (h : x.lookups text = []) : ¬ x.Forgets text := by
  rintro ⟨written, r, origin, hp, -⟩
  have hnone := List.filterMap_eq_nil_iff.1 h _ hp
  simp [Piece.reference?] at hnone

/-- **Passes come to rest if and only if they stop forgetting.** Whatever finitely many values there
are, and whatever they refer to, the text and the keys that its characters came out of stop changing
exactly if from some pass on nothing is forgotten any more; then the characters stop changing. -/
theorem comes_to_rest_iff (values : List (Text × Text)) (filter : Text → Text)
    (mainKey : Option Text) (text : Text) :
    let x := ofValues values filter mainKey
    ((∃ n, ∀ m, n ≤ m → x.after m text = x.after n text) ↔
      ∃ n, ∀ m, n ≤ m → ¬ x.Forgets (x.after m text)) ∧
    ((∃ n, ∀ m, n ≤ m → ¬ x.Forgets (x.after m text)) →
      ∃ n, ∀ m, n ≤ m → Glyph.chars (x.after m text) = Glyph.chars (x.after n text)) := by
  intro x
  have hrest : (∃ n, ∀ m, n ≤ m → ¬ x.Forgets (x.after m text)) →
      ∃ n, ∀ m, n ≤ m → x.after m text = x.after n text := by
    rintro ⟨n, h⟩
    obtain ⟨k, -, hnil⟩ := exists_lookups_eq_nil h
    exact ⟨k, fun m hm => after_eq_of_lookups_eq_nil rfl hnil hm⟩
  refine ⟨⟨?_, hrest⟩, fun h => ?_⟩
  · rintro ⟨n, h⟩
    have hfixed : x.pass (x.after n text) = x.after n text := by
      rw [← after_succ]
      exact h (n + 1) (Nat.le_succ n)
    refine ⟨n, fun m hm => ?_⟩
    rw [h m hm]
    exact not_forgets_of_lookups_eq_nil ((pass_eq_self_iff rfl).1 hfixed)
  · obtain ⟨n, h⟩ := hrest h
    exact ⟨n, fun m hm => by rw [h m hm]⟩

/-! ## A text that grows -/

/-- The text `$${x}${y}}`, where `x` stands for `{u=` and `y` for `$${x}${y}}a`. The first pass
makes a reference to `u` out of the first `$` and the value of `x`. Its fallback, the front of the
value of `y`, counts as coming out of no key after the second pass. -/
def growingFront : Text := "$${x}${y}".toList

def growing : Expander :=
  ofValues [(['x'], "\x7bu=".toList), (['y'], growingFront ++ "\x7da".toList)] id none

/-- The text after an even number of passes. -/
def grown (n : Nat) : List Glyph :=
  Glyph.ofText [] growingFront ++
    (Glyph.ofText [['y']] (List.replicate n 'a') ++ Glyph.ofText [] ['\x7d'])

theorem passFrom_growingFront (rest : List Glyph) :
    growing.passFrom none (Glyph.ofText [] growingFront ++ rest) =
      Glyph.ofText [] ['$'] ++ Glyph.ofText [['x']] "\x7bu=".toList ++
        Glyph.ofText [['y']] (growingFront ++ "\x7da".toList) ++
        growing.passFrom (some '\x7d') rest := rfl

theorem passFrom_growingReference (rest : List Glyph) :
    growing.passFrom none (Glyph.ofText [] ['$'] ++ Glyph.ofText [['x']] "\x7bu=".toList ++
        Glyph.ofText [['y']] (growingFront ++ "\x7da".toList) ++ rest) =
      Glyph.ofText [] growingFront ++ (Glyph.ofText [['y']] ['a'] ++
        growing.passFrom (some 'a') rest) := rfl

theorem passFrom_grownRest (before : Option Char) (n : Nat) :
    growing.passFrom before
        (Glyph.ofText [['y']] (List.replicate n 'a') ++ Glyph.ofText [] ['\x7d']) =
      Glyph.ofText [['y']] (List.replicate n 'a') ++ Glyph.ofText [] ['\x7d'] := by
  have hplain : (List.replicate n 'a').all Delimiters.isPlainChar := by
    simp [List.all_replicate, Delimiters.isPlainChar, escapeChar]
  rw [passFrom_plain rfl hplain]
  rfl

theorem pass_pass_grown (n : Nat) : growing.pass (growing.pass (grown n)) = grown (n + 1) := by
  rw [pass_eq_passFrom, pass_eq_passFrom, grown, passFrom_growingFront, passFrom_grownRest,
    passFrom_growingReference, passFrom_grownRest, grown]
  simp [Glyph.ofText, List.replicate_succ]

/-- Two passes after the other, the text grows. -/
theorem after_growing (n : Nat) : growing.after (2 * n) (growingFront ++ ['\x7d']) = grown n := by
  induction n with
  | zero => rfl
  | succ n ih => rw [Nat.mul_succ, after_succ, after_succ, ih, pass_pass_grown]

/-- So passes need not come to rest. -/
theorem not_at_rest_growing :
    ¬ ∃ n, ∀ m, n ≤ m → Glyph.chars (growing.after m (growingFront ++ ['\x7d'])) =
      Glyph.chars (growing.after n (growingFront ++ ['\x7d'])) := by
  rintro ⟨n, h⟩
  have hlength : ∀ k, (Glyph.chars (grown k)).length = k + 10 := by
    intro k
    have hfront : growingFront.length = 9 := rfl
    simp [grown, hfront, Glyph.chars, Glyph.ofText]
    omega
  have hn := congrArg List.length (h (2 * n) (by omega))
  have hm := congrArg List.length (h (2 * (n + 1)) (by omega))
  rw [after_growing, hlength] at hn hm
  omega

end Expander

end PropertyConfig
