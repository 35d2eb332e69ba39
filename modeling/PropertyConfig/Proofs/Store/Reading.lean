import PropertyConfig.Proofs.Expansion.Respelling
import PropertyConfig.Proofs.Store.OrderedMap
import PropertyConfig.Store.Read

/-!
# Reading a key in more than one way

Where letter case does not count, a key is found under all its spellings. Its value is expanded for
all of them alike as long as it never comes to a reference to the key under one of the spellings
that it is read by (`Reachable.read_alike_iff`): such a reference is looked up by the readers of
other spellings.

To expand a reference to a key is to read the key, one pass later
(`getText?_eq_expand_referenceTo`).
-/

namespace PropertyConfig

namespace Store

variable {s : Store} {a b key raw : Text} {m : Nat}

/-- Within the value of a key, references are expanded as they are elsewhere. -/
theorem expander_eq_reading (s : Store) (key : Text) :
    s.expander (some key) = (s.expander none).reading key := rfl

/-! ## Two spellings of a key -/

/-- The references that come up while a key is read, also those that are not looked up. -/
def readReferences (s : Store) (key : Text) : List Reference :=
  (s.get? key).elim [] (s.expander (some key)).expandReferences

/-- The references that are looked up while a key is read, in order. -/
def readLookups (s : Store) (key : Text) : List Reference :=
  (s.get? key).elim [] (s.expander (some key)).expandLookups

/-- Whatever is read of one key is read of the other. Only in an error the key is spelled as it is
asked for. -/
structure ReadsAlike (s : Store) (a b : Text) : Prop where
  getText?_eq : s.getText? a = s.getText? b
  getAs?_eq : ∀ k strict, s.getAs? k strict a = s.getAs? k strict b
  getD_eq : ∀ k fallback, s.getD k a fallback = s.getD k b fallback
  require_eq : ∀ k, (s.require k a).toOption = (s.require k b).toOption
  getFlag_eq : ∀ fallback, s.getFlag a fallback = s.getFlag b fallback

theorem readsAlike_of_getText?_eq (h : s.getText? a = s.getText? b) : s.ReadsAlike a b where
  getText?_eq := h
  getAs?_eq k strict := by rw [getAs?, getAs?, h]
  getD_eq k fallback := by rw [getD, getD, getAs?, getAs?, h]
  require_eq k := by
    rw [require, require, h]
    cases s.getText? b with
    | none => rfl
    | some value => cases hvalue : k.read? true value <;> simp [hvalue, Except.toOption]
  getFlag_eq fallback := by rw [getFlag, getFlag, h]

theorem get?_congr (h : s.Distinct) (hsame : s.policy.sameKey a b) : s.get? a = s.get? b := by
  rw [get?_eq_lookup h, get?_eq_lookup h, Policy.sameKey_iff.1 hsame]

/-- **Reading a key under two spellings.** Let operations lead to a store while letter case does not
count. Reading a key under either of two spellings looks up the same references exactly if none that
comes up is to the key under one of them; and then everything reads alike, whatever references the
values have and whatever other spellings these use. -/
theorem Reachable.read_alike_iff (h : s.Reachable (·.ignoreCase = true))
    (hsame : Text.sameLetters a b) (hne : a ≠ b) :
    s.get? a = s.get? b ∧
    (s.readLookups a = s.readLookups b ↔ ∀ r ∈ s.readReferences a, r.key ≠ a ∧ r.key ≠ b) ∧
    ((∀ r ∈ s.readReferences a, r.key ≠ a ∧ r.key ≠ b) → s.ReadsAlike a b) := by
  have hkey : s.policy.sameKey a b := by
    rw [Policy.sameKey, h.policy_allowed]
    exact hsame
  have hget : s.get? a = s.get? b := get?_congr h.distinct hkey
  refine ⟨hget, ?_⟩
  rw [readLookups, readLookups, readReferences, ← hget]
  cases hraw : s.get? a with
  | none =>
    refine ⟨by simp, fun _ => readsAlike_of_getText?_eq ?_⟩
    rw [getText?, getText?, ← hget, hraw]
    rfl
  | some raw =>
    obtain ⟨hlookups, htext⟩ := Expander.expand_reading_eq (x := s.expander none) rfl hne raw
    refine ⟨hlookups, fun hfree => readsAlike_of_getText?_eq ?_⟩
    rw [getText?, getText?, ← hget, hraw]
    exact congrArg some (htext hfree)

/-- A store in which letter case does not count, with the value `x${AB}` of `ab`. -/
def referredBack : Store :=
  Store.perform { policy := { ignoreCase := true } }
    (.set "ab".toList "x${AB}".toList)

/-- Under the two spellings that it does not use itself, the value reads `xx${AB}`. -/
theorem read_alike_iff_referredBack :
    referredBack.ReadsAlike "ab".toList "Ab".toList ∧
      referredBack.getText? "ab".toList = some "xx${AB}".toList := by
  have hreachable : referredBack.Reachable (·.ignoreCase = true) := .perform _ (.empty rfl)
  obtain ⟨-, -, halike⟩ := hreachable.read_alike_iff
    (a := "ab".toList) (b := "Ab".toList) (by decide) (by decide)
  exact ⟨halike (by decide +kernel), by decide +kernel⟩

/-- Where letter case does not count, the value `x${k}` of `k` reads `x${k}` as that of `k` and
`xx${k}` as that of `K`. -/
theorem read_apart_capital :
    let s := Store.perform { policy := { ignoreCase := true } }
      (.set ['k'] "x${k}".toList)
    s.Reachable (·.ignoreCase = true) ∧ Text.sameLetters ['k'] ['K'] ∧
      s.getText? ['k'] = some "x${k}".toList ∧
      s.getText? ['K'] = some "xx${k}".toList :=
  ⟨.perform _ (.empty rfl), by decide, by decide +kernel, by decide +kernel⟩

/-! ## A key and a reference to it -/

/-- The first pass over a reference to a key gives what reading the key starts with. -/
theorem pass_start_referenceTo (hkey : Referable key) (hget : s.get? key = some raw) :
    (s.expander none).pass ((s.expander none).start (referenceTo key)) =
      (s.expander (some key)).start raw := by
  have hlookup : (s.expander none).lookup ⟨key, none, []⟩ = some raw := hget
  rw [Expander.start, Expander.pass_referenceTo rfl hkey, hlookup]
  simp [expander, Expander.start]

/-- **A key reads the same directly and by reference.** Whatever the values of a store refer to, and
be it in a cycle: if expansion of the value of a key ends because a pass leaves the text as it is,
then the reference to the key, which takes a pass more, expands to the same text. -/
theorem getText?_eq_expand_referenceTo (hkey : Referable key) (hget : s.get? key = some raw)
    (hrests : (s.expander (some key)).RestsAfter m raw) :
    s.getText? key = some (s.expand (referenceTo key)) := by
  have hactive : ∀ mainKey, (s.expander mainKey).isActive = true := fun _ => rfl
  have hpass := pass_start_referenceTo hkey hget
  have hvalue : s.getText? key = some ((s.expander (some key)).expand raw) := by
    rw [getText?, hget]
    rfl
  rw [hvalue, expand]
  refine congrArg some ?_
  cases hsettled : (s.expander none).settled ((s.expander none).start (referenceTo key)) with
  | true =>
    -- the value is the reference itself, which is held back where the value is read
    obtain rfl : raw = referenceTo key := by
      rw [Expander.settled, hpass, beq_iff_eq] at hsettled
      simpa [Expander.start] using hsettled
    have hheld : (s.expander (some key)).settled
        ((s.expander (some key)).start (referenceTo key)) := by
      rw [Expander.settled, Expander.start, Expander.pass_referenceTo rfl hkey]
      simp [expander]
    rw [Expander.expand_of_settled hheld, Expander.expand_of_settled hsettled]
  | false =>
    have hlast : m ≤ 5 := Nat.le_of_lt_succ hrests.lt_maxPasses
    calc (s.expander (some key)).expand raw
        = Glyph.chars ((s.expander (some key)).after m raw) :=
          Expander.expand_eq_of_restsAfter (hactive _) hrests
      _ = Glyph.chars ((s.expander none).passes 5 ((s.expander (some key)).start raw)) := by
          rw [← hrests.passes_eq hlast, expander_eq_reading, Expander.passes_reading]
      _ = (s.expander none).expand (referenceTo key) := by
          rw [Expander.expand, if_pos (hactive _), Expander.maxPasses,
            Expander.passes_of_unsettled hsettled, hpass]

/-- A store in which `a` is `x${b}` and `b` is `${a}`. -/
def circular : Store :=
  (Store.perform {} (.set ['a'] "x${b}".toList)).perform
    (.set ['b'] (referenceTo ['a']))

/-- Both ways `a` reads `x${a}`. -/
theorem getText?_eq_expand_referenceTo_circular :
    Referable ['a'] ∧
      (circular.expander (some ['a'])).RestsAfter 1 "x${b}".toList ∧
      circular.getText? ['a'] = some (circular.expand (referenceTo ['a'])) ∧
      circular.getText? ['a'] = some ('x' :: referenceTo ['a']) := by
  have hkey : Referable ['a'] := ⟨by decide, by simp [escapeChar], by decide⟩
  have hrests : (circular.expander (some ['a'])).RestsAfter 1 "x${b}".toList :=
    ⟨by decide, by decide +kernel, by decide +kernel⟩
  exact ⟨hkey, hrests, getText?_eq_expand_referenceTo hkey (by decide +kernel) hrests,
    by decide +kernel⟩

end Store

end PropertyConfig
