import PropertyConfig.Proofs.Line.Written
import PropertyConfig.Proofs.Load.Stores
import PropertyConfig.Proofs.Store.Copying
import PropertyConfig.Proofs.Store.Untouched
import PropertyConfig.Url.Parse

/-!
# Conditions on properties of the same text

A condition is tested against the value that its key has at its line. Between the line that assigns
this value and the condition, lines that do not touch the key keep it (`get?_executed`), so the
condition sees what was assigned. This is the value as the property has it, with the blanks behind
the `=`, while the value of the condition is without blanks at its ends
(`Loader.condition_sees_property`).
-/

namespace PropertyConfig

variable {w : Surroundings} {c : Context} {s : Store} {t : Text}

/-! ## Lines that leave a key alone -/

/-- A line that can change the value of a key: an include, or an assignment that acts on the key,
be it to remove it. -/
def Line.Touches (p : Policy) (key : Text) (l : Line) : Prop :=
  (∃ target isOptional, l = .inclusion target isOptional) ∨
    ∃ e ∈ l.assigned?, ∃ k ∈ p.editedKey? (.set e.1 e.2), p.sameKey k key

/-- A line that does not touch a key keeps its value. -/
theorem get?_executed {reader : Option Reader} {l : Line} {key : Text}
    (h : ¬ l.Touches s.policy key) : (executed w reader c s l).get? key = s.get? key := by
  have hset (k value : Text) (hassigned : l.assigned? = some (k, value)) :
      (s.set k value).get? key = s.get? key := by
    refine Store.get?_apply_of_untouched fun edited hedited => ?_
    rw [← Bool.not_eq_true]
    exact fun hsame => h (.inr ⟨_, hassigned, edited, hedited, hsame⟩)
  cases l with
  | property k value => exact hset k value rfl
  | reserved k value => exact hset k.key value rfl
  | inclusion target isOptional => exact absurd (.inl ⟨target, isOptional, rfl⟩) h
  | _ => rfl

namespace Place

variable {p q : Place w c s t}

/-- What stands before a place is all there is up to an earlier one, that one, and the lines between
them. -/
theorem exists_between (h : p.line < q.line) :
    ∃ between, q.before = p.before ++ p.raw :: between := by
  have hlength : (p.before ++ [p.raw]).length ≤ q.before.length := by
    simp only [line] at h
    simp only [List.length_append, List.length_singleton]
    omega
  have hp : p.before ++ [p.raw] <+: Text.lines t := ⟨p.after, by simp [p.lines_eq]⟩
  have hq : q.before <+: Text.lines t := ⟨q.raw :: q.after, q.lines_eq.symm⟩
  obtain ⟨between, hbetween⟩ := List.prefix_of_prefix_length_le hp hq hlength
  exact ⟨between, by simp [← hbetween]⟩

/-- What holds of the store behind a line, and is kept by each line up to another one that is
executed, holds of the store at the other line. -/
theorem store_between {P : Store → Prop} (h : p.line < q.line) (hstart : P p.result.1.store)
    (hkeep : ∀ r : Place w c s t, p.line < r.line → r.line < q.line → r.machine.state ≠ .skipped →
      P r.machine.store →
        P (executed w (c.allowed (interpretIn w)) c r.machine.store (Line.read r.raw))) :
    P q.machine.store := by
  obtain ⟨between, hbetween⟩ := exists_between h
  -- what is reached behind the first line goes on from what that line leaves
  have hmachine (before : List Text) :
      (runLines w (c.allowed (interpretIn w)) c 1 { store := s }
        ((p.before ++ p.raw :: before).map Line.read)).1 =
      (runLines w (c.allowed (interpretIn w)) c (p.line + 1) p.result.1
        (before.map Line.read)).1 := by
    rw [List.map_append, List.map_cons, runLines_append, runLines_cons, p.length_before]
    rfl
  rw [machine, earlier, hbetween, hmachine]
  refine runLines_invariant (fun before' l after' hlines hstate hP => ?_) hstart
  obtain ⟨before, rest, hsplit, rfl, hrest⟩ := List.map_eq_append_iff.1 hlines
  obtain ⟨raw, after, rfl, rfl, rfl⟩ := List.map_eq_cons_iff.1 hrest
  let r : Place w c s t :=
    { before := p.before ++ p.raw :: before
      raw
      after := after ++ q.raw :: q.after
      lines_eq := by rw [q.lines_eq, hbetween, hsplit]; simp }
  have hr : r.machine = (runLines w (c.allowed (interpretIn w)) c (p.line + 1) p.result.1
      (before.map Line.read)).1 := hmachine before
  rw [← hr] at hstate hP ⊢
  exact hkeep r (by simp [r, line]) (by simp [r, line, hbetween, hsplit]) hstate hP

end Place

/-! ## Properties that conditions ask for -/

/-- A property that a condition can ask for in the words of the line that assigns it. -/
structure IsComparable (key value : Text) : Prop where
  isPropertyKey : Line.IsPropertyKey key
  unmarked : ∀ d ∈ key.head?, isRemovalMarker d = false
  key_plain : ∀ d ∈ key, Condition.isOperatorChar d = false
  value_ne_nil : value ≠ []
  value_trimmed : Text.trim value = value
  value_plain : ∀ d ∈ value.head?, Condition.isOperatorChar d = false

namespace IsComparable

variable {key value : Text} (h : IsComparable key value)

include h

theorem isWritable (negate : Bool) : Condition.IsWritable ⟨key, some value, negate⟩ where
  key_ne_nil := h.isPropertyKey.ne_nil
  key_trimmed := h.isPropertyKey.trimmed
  key_plain := h.key_plain
  value_trimmed := by
    rintro _ ⟨⟩
    exact h.value_trimmed
  value_plain := by
    rintro _ ⟨⟩
    exact h.value_plain
  value_of_negate := fun _ => rfl

theorem admissible (front : Text) : (Line.property key (front ++ value)).Admissible := by
  have hbare : Text.endsBare value := (Text.trim_eq_self_iff.1 h.value_trimmed).2
  exact ⟨h.isPropertyKey,
    Text.trimEnd_eq_self_iff.2 (Text.endsBare_append h.value_ne_nil hbare front)⟩

theorem isBlank_append (front : Text) : Text.isBlank (front ++ value) = false := by
  rw [← Bool.not_eq_true]
  intro hblank
  have hvalue : Text.isBlank value := by
    rw [Text.isBlank, List.all_append, Bool.and_eq_true] at hblank
    exact hblank.2
  have hnil : value = [] := by
    rw [← h.value_trimmed, Text.trim, Text.trimStart_of_isBlank hvalue]
    rfl
  exact h.value_ne_nil hnil

/-- The value is kept with all that stands in front of it. -/
theorem get?_set (hs : s.Distinct) (front : Text) :
    (s.set key (front ++ value)).get? key = some (front ++ value) := by
  obtain ⟨d, rest, rfl⟩ := List.exists_cons_of_ne_nil h.isPropertyKey.ne_nil
  rw [Store.get?_set hs (h.unmarked d rfl), if_pos (Policy.sameKey_iff.2 rfl), Policy.kept?,
    if_neg (by simp [h.isBlank_append front])]

end IsComparable

/-- Whether a value and one that ends in it compare as equal. -/
theorem Condition.holds_append (key value front : Text) (negate : Bool) :
    Condition.holds ⟨key, some value, negate⟩ (some (front ++ value)) =
      (front.isEmpty != negate) := by
  show (Text.sameLetters value (front ++ value) != negate) = _
  rw [Text.sameLetters_append]

namespace Loader

variable {l : Loader} {root : Loader.Root} {key value front : Text} {negate : Bool}

/-- **A condition sees what a line before it has assigned.** Where a line that assigns a value is
executed, and no line touches the key from there to a condition that asks for the value, the
condition holds exactly if nothing stands between the `=` of the line and the value, not even
blanks, which belong to what is assigned; the opposite condition holds otherwise. Blanks do not
count anywhere else. -/
theorem condition_sees_property (hreads : l.Reads root c s t) {p q : Place l.surroundings c s t}
    (h : IsComparable key value) (hp : (Line.property key (front ++ value)).Written p.raw)
    (hexecuted : p.machine.state ≠ .skipped)
    (hq : (Line.condition (.ok ⟨key, some value, negate⟩)).Written q.raw)
    (hreached : q.machine.state = .outside) (hlater : p.line < q.line)
    (hbetween : ∀ r : Place l.surroundings c s t, p.line < r.line → r.line < q.line →
      r.machine.state ≠ .skipped → ¬ (Line.read r.raw).Touches l.policy key) :
    q.result.1.state = if front.isEmpty != negate then .taken else .skipped := by
  have hloaded := loaded_of_reads hreads
  have hassigned : p.result.1.store.get? key = some (front ++ value) := by
    rw [Place.result, step_store, if_neg hexecuted,
      (Line.read_written (h.admissible front)).2 _ hp, executed]
    exact h.get?_set (p.loaded hloaded).distinct front
  have hkept : q.machine.store.get? key = some (front ++ value) := by
    refine Place.store_between (P := fun s => s.get? key = some (front ++ value)) hlater hassigned
      fun r hpr hrq hstate hr => ?_
    have htouches := hbetween r hpr hrq hstate
    rw [← (r.loaded hloaded).policy_eq] at htouches
    rw [get?_executed htouches, hr]
  have hseen : lookupIn (c.scope l.surroundings q.machine.store) key = some (front ++ value) := by
    rw [lookupIn, Context.scope, List.cons_append, List.findSome?_cons, hkept]
  have hadmissible : (Line.condition (.ok ⟨key, some value, negate⟩)).Admissible :=
    h.isWritable negate
  have hread := (Line.read_written hadmissible).2 _ hq
  rw [Place.result, step_state, hread, hreached, BlockState.behind, conditionHolds, hseen,
    Condition.holds_append]

/-- A loader with nothing set, and with no resource to be had. -/
def comparingLoader : Loader :=
  LoaderOptions.loader {} [] (fun _ => .error .blankInclude) UrlReader.ascii []

/-- The text `k=v`, `x=1`, `%if k = v`. -/
def comparingText : Text := "k=v\nx=1\n%if k = v".toList

/-- Its first line, in the run of the text. -/
def assigningPlace : Place comparingLoader.surroundings ⟨none, 1, []⟩
    (comparingLoader.rootStore none) comparingText where
  before := []
  raw := "k=v".toList
  after := ["x=1".toList, "%if k = v".toList]
  lines_eq := rfl

/-- Its last line. -/
def comparingPlace : Place comparingLoader.surroundings ⟨none, 1, []⟩
    (comparingLoader.rootStore none) comparingText where
  before := ["k=v".toList, "x=1".toList]
  raw := "%if k = v".toList
  after := []
  lines_eq := rfl

theorem isComparable_letters : IsComparable ['k'] ['v'] where
  isPropertyKey :=
    { ne_nil := by decide
      trimmed := by decide
      undivided := by decide
      head_plain := by
        rintro _ ⟨⟩
        decide }
  unmarked := by
    rintro _ ⟨⟩
    decide
  key_plain := List.forall_mem_singleton.2 (by decide)
  value_ne_nil := by decide
  value_trimmed := by decide
  value_plain := by
    rintro _ ⟨⟩
    decide

theorem condition_sees_property_near : comparingPlace.result.1.state = .taken := by
  have hreads : comparingLoader.Reads (.text comparingText) ⟨none, 1, []⟩
      (comparingLoader.rootStore none) comparingText := .start
  have hgap : Text.isBlank [' '] := rfl
  have hproperty : (Line.property ['k'] ([] ++ ['v'])).Written assigningPlace.raw :=
    ⟨[], _, [], rfl, rfl, .property ['k'] ['v'] Text.isBlank_nil, rfl⟩
  have hcompared : (⟨['k'], some ['v'], false⟩ : Condition).Written
      (['k'] ++ [' '] ++ (['='] ++ ([' '] ++ ['v']))) := .compared ['k'] ['v'] (by decide) hgap hgap
  have hcondition : (Line.condition (.ok ⟨['k'], some ['v'], false⟩)).Written comparingPlace.raw :=
    ⟨[], _, [], rfl, rfl, .condition hcompared hgap (List.cons_ne_nil _ _), rfl⟩
  refine condition_sees_property hreads isComparable_letters hproperty (by decide) hcondition rfl
    (by decide) fun r hlow hhigh _ => ?_
  have hsecond : r.before.length = 1 := by
    simp only [Place.line, assigningPlace, comparingPlace, List.length_nil, List.length_cons]
      at hlow hhigh
    omega
  have hraw : r.raw = "x=1".toList := by
    have hline := r.getElem?_lines
    rw [hsecond] at hline
    exact (Option.some.inj hline).symm
  have hread : Line.read r.raw = .property ['x'] ['1'] := by
    rw [hraw]
    rfl
  rw [hread]
  rintro (⟨_, _, h⟩ | ⟨_, ⟨⟩, _, ⟨⟩, hsame⟩)
  · cases h
  · exact absurd hsame (by decide)

/-- The text `k = v`, `%if k = v`, `x=1`, `%endif`. -/
def spacedText : Text := "k = v\n%if k = v\nx=1\n%endif".toList

/-- A condition does not hold right behind the line that is written like it, if there is a blank
behind the `=`. -/
theorem condition_misses_blank :
    IsComparable ['k'] ['v'] ∧
      comparingLoader.Reads (.text spacedText) ⟨none, 1, []⟩ (comparingLoader.rootStore none)
        spacedText ∧
      ∃ p q : Place comparingLoader.surroundings ⟨none, 1, []⟩ (comparingLoader.rootStore none)
          spacedText,
        p.raw = "k = v".toList ∧ p.machine.state = .outside ∧
          q.raw = "%if k = v".toList ∧ q.machine.state = .outside ∧
          q.line = p.line + 1 ∧ q.result.1.state = .skipped :=
  ⟨isComparable_letters, .start,
    { before := []
      raw := "k = v".toList
      after := _
      lines_eq := rfl },
    { before := ["k = v".toList]
      raw := "%if k = v".toList
      after := _
      lines_eq := rfl },
    rfl, rfl, rfl, rfl, rfl, rfl⟩

end Loader

end PropertyConfig
