import PropertyConfig.Proofs.Text.Utf8

/-!
# Slices of a text

A slice of a text is given by the numbers of bytes in front of its two ends. There is one only if
both ends are places between characters, within the text and in order (`slice?_eq_some_iff`).
-/

namespace PropertyConfig.Text

/-- The text in front of a place and behind it, if it is a place between characters. -/
def splitBytes? : (n : Nat) → Text → Option (Text × Text)
  | 0, t => some ([], t)
  | _ + 1, [] => none
  | n + 1, c :: t =>
    if c.utf8Size ≤ n + 1 then
      (splitBytes? (n + 1 - c.utf8Size) t).map fun p => (c :: p.1, p.2)
    else none

theorem splitBytes?_append (a b : Text) : splitBytes? (bytes a) (a ++ b) = some (a, b) := by
  induction a with
  | nil => cases b <;> rfl
  | cons c a ih =>
    have hbytes := bytes_cons c a
    obtain ⟨n, hn⟩ := Nat.exists_eq_succ_of_ne_zero (bytes_pos (List.cons_ne_nil c a)).ne'
    rw [hn] at hbytes ⊢
    have hrest : n + 1 - c.utf8Size = bytes a := by omega
    rw [List.cons_append, splitBytes?, hrest, ih, if_pos (by omega)]
    rfl

theorem splitBytes?_eq_some_iff {n : Nat} {t a b : Text} :
    splitBytes? n t = some (a, b) ↔ t = a ++ b ∧ bytes a = n := by
  constructor
  · intro h
    induction t generalizing n a with
    | nil =>
      cases n with
      | zero =>
        obtain ⟨rfl, rfl⟩ := Prod.mk.inj (Option.some.inj h)
        exact ⟨rfl, rfl⟩
      | succ n => cases h
    | cons c t ih =>
      cases n with
      | zero =>
        obtain ⟨rfl, rfl⟩ := Prod.mk.inj (Option.some.inj h)
        exact ⟨rfl, rfl⟩
      | succ n =>
        rw [splitBytes?] at h
        split at h
        · next hsize =>
          obtain ⟨⟨front, behind⟩, hsplit, hpair⟩ := Option.map_eq_some_iff.1 h
          obtain ⟨rfl, rfl⟩ : c :: front = a ∧ behind = b := Prod.mk.inj hpair
          obtain ⟨rfl, hbytes⟩ := ih hsplit
          rw [bytes_cons, hbytes]
          exact ⟨rfl, Nat.add_sub_cancel' hsize⟩
        · cases h
  · rintro ⟨rfl, rfl⟩
    exact splitBytes?_append a b

/-- The text behind a place. -/
def from? (t : Text) (i : Nat) : Option Text := (splitBytes? i t).map Prod.snd

/-- The text between two places. -/
def slice? (t : Text) (i j : Nat) : Option Text :=
  (splitBytes? j t).bind fun p => p.1.from? i

theorem from?_eq_some_iff {t u : Text} {i : Nat} :
    t.from? i = some u ↔ ∃ a, t = a ++ u ∧ bytes a = i := by
  rw [from?, Option.map_eq_some_iff]
  constructor
  · rintro ⟨⟨a, b⟩, hsplit, rfl⟩
    exact ⟨a, splitBytes?_eq_some_iff.1 hsplit⟩
  · rintro ⟨a, h⟩
    exact ⟨(a, u), splitBytes?_eq_some_iff.2 h, rfl⟩

theorem slice?_eq_some_iff {t u : Text} {i j : Nat} :
    t.slice? i j = some u ↔ ∃ a b, t = a ++ u ++ b ∧ bytes a = i ∧ bytes (a ++ u) = j := by
  rw [slice?, Option.bind_eq_some_iff]
  constructor
  · rintro ⟨⟨front, b⟩, hsplit, hfrom⟩
    obtain ⟨rfl, hj⟩ := splitBytes?_eq_some_iff.1 hsplit
    obtain ⟨a, rfl, hi⟩ := from?_eq_some_iff.1 hfrom
    exact ⟨a, b, rfl, hi, hj⟩
  · rintro ⟨a, b, rfl, hi, hj⟩
    exact ⟨(a ++ u, b), splitBytes?_eq_some_iff.2 ⟨rfl, hj⟩, from?_eq_some_iff.2 ⟨a, rfl, hi⟩⟩

/-- How many bytes stand in front of the first place where a text has `mark`. -/
def placeOf? (mark t : Text) : Option Nat := (cut? mark t).map fun p => bytes p.1

end PropertyConfig.Text
