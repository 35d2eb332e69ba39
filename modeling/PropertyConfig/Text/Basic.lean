/-!
# Texts and searching in them

A text is a list of characters. `after?` matches a text at the front of another one, `cut?` and
`cutAt?` divide a text at its first separator, and `splitOn` divides it at every separator. Each of
them only divides: the pieces and the separators between them, put together again, are the text
(`after?_eq_some_iff`, `cut?_eq_some`, `cutAt?_eq_some`).
-/

namespace PropertyConfig

abbrev Text := List Char

namespace Text

/-- Whether a character is in one of some runs, each given by its first and last code point. -/
def inRuns (runs : List (Nat × Nat)) (c : Char) : Bool :=
  runs.any fun r => r.1 ≤ c.toNat && c.toNat ≤ r.2

/-- What follows `lead` in a text that starts with it. -/
def after? : (lead text : Text) → Option Text
  | [], t => some t
  | _ :: _, [] => none
  | c :: lead, d :: t => if c = d then after? lead t else none

theorem after?_eq_some_iff {lead t rest : Text} : after? lead t = some rest ↔ t = lead ++ rest := by
  induction lead generalizing t with
  | nil => simp [after?]
  | cons c lead ih =>
    cases t with
    | nil => simp [after?]
    | cons d t => by_cases h : c = d <;> simp [after?, h, ih, eq_comm]

/-- The text before the first place where `mark` occurs, and the text after that occurrence. -/
def cut? (mark : Text) : Text → Option (Text × Text)
  | [] => if mark = [] then some ([], []) else none
  | c :: t =>
    match after? mark (c :: t) with
    | some rest => some ([], rest)
    | none => (cut? mark t).map fun p => (c :: p.1, p.2)

theorem cut?_eq_some {mark t : Text} {p : Text × Text} (h : cut? mark t = some p) :
    t = p.1 ++ mark ++ p.2 := by
  induction t generalizing p with
  | nil =>
    by_cases hm : mark = []
    · simp only [cut?, hm, if_true, Option.some.injEq] at h
      simp [← h, hm]
    · simp [cut?, hm] at h
  | cons c t ih =>
    rw [cut?] at h
    split at h
    · next rest hr =>
      obtain rfl := (Option.some.injEq _ _).mp h
      simpa using after?_eq_some_iff.mp hr
    · obtain ⟨q, hq, rfl⟩ := Option.map_eq_some_iff.mp h
      simpa using ih hq

/-- The text before the first character that `p` accepts, that character, and the text after it. -/
def cutAt? (p : Char → Bool) : Text → Option (Text × Char × Text)
  | [] => none
  | c :: t => if p c then some ([], c, t) else (cutAt? p t).map fun (a, s, b) => (c :: a, s, b)

theorem cutAt?_eq_some {p : Char → Bool} {t a b : Text} {s : Char}
    (h : cutAt? p t = some (a, s, b)) : t = a ++ s :: b ∧ p s ∧ ∀ c ∈ a, p c = false := by
  induction t generalizing a with
  | nil => simp [cutAt?] at h
  | cons c t ih =>
    by_cases hc : p c
    · simp only [cutAt?, hc, if_true, Option.some.injEq, Prod.mk.injEq] at h
      obtain ⟨rfl, rfl, rfl⟩ := h
      simp [hc]
    · simp only [cutAt?, hc, Bool.false_eq_true, if_false, Option.map_eq_some_iff] at h
      obtain ⟨⟨a', s', b'⟩, hq, he⟩ := h
      simp only [Prod.mk.injEq] at he
      obtain ⟨rfl, rfl, rfl⟩ := he
      obtain ⟨rfl, hs, ha⟩ := ih hq
      simp_all

/-- The pieces between the occurrences of `mark`, taken from left to right. -/
def splitOn (mark text : Text) : List Text :=
  match _h : cut? mark text with
  | none => [text]
  | some (piece, rest) => if _hm : mark = [] then [text] else piece :: splitOn mark rest
termination_by text.length
decreasing_by
  have := congrArg List.length (cut?_eq_some _h)
  have := List.length_pos_iff.mpr _hm
  simp at *
  omega

/-- The pieces between the occurrences of the character `s`. -/
def splitAt (s : Char) : Text → List Text
  | [] => [[]]
  | c :: t =>
    match splitAt s t with
    | [] => [[c]]
    | piece :: rest => if c = s then [] :: piece :: rest else (c :: piece) :: rest

/-- The texts one after the other, with `mark` between neighbours. -/
def join (mark : Text) : List Text → Text
  | [] => []
  | [t] => t
  | t :: u :: rest => t ++ mark ++ join mark (u :: rest)

end Text

end PropertyConfig
