import PropertyConfig.Proofs.Store.Arguments
import PropertyConfig.Proofs.Text.Bytes

/-!
# Places to divide an argument at

An argument is divided in front of its first separator and one byte behind that (`Argument.cuts`).
The latter is within the separator if that takes up more bytes, and then the argument cannot be read
(`Argument.read_eq_undivided_iff`). Reading arguments comes to an end at the first one of this kind,
unless it is the value of an option or stands behind the end (`Arguments.ending_eq_undivided_iff`).
Main statement: `Arguments.divided_at_characters_iff`.
-/

namespace PropertyConfig

namespace Argument

/-- The places, counted in bytes, at which an argument is divided: in front of its first separator,
and one byte behind that. -/
def cuts (separators : List Char) (t : Text) : List Nat :=
  if Text.isBlank t then []
  else
    match Text.cutAt? separators.contains (unquote t) with
    | some (left, _, _) => [Text.bytes left, Text.bytes left + 1]
    | Option.none => []

/-- The first separator of an argument, and what stands on its two sides. -/
structure FirstSeparator (separators : List Char) (t left : Text) (separator : Char)
    (right : Text) : Prop where
  not_blank : Text.isBlank t = false
  eq_append : unquote t = left ++ separator :: right
  mem : separator ∈ separators
  not_mem : ∀ c ∈ left, c ∉ separators

variable {separators : List Char} {t left right : Text} {separator : Char}

theorem firstSeparator_iff : FirstSeparator separators t left separator right ↔
    Text.isBlank t = false ∧
      Text.cutAt? separators.contains (unquote t) = some (left, separator, right) := by
  constructor
  · intro h
    refine ⟨h.not_blank, ?_⟩
    rw [h.eq_append]
    refine Text.cutAt?_append (fun c hc => ?_) (List.contains_iff_mem.2 h.mem) right
    simpa using h.not_mem c hc
  · rintro ⟨hblank, hcut⟩
    obtain ⟨happend, hseparator, hleft⟩ := Text.cutAt?_eq_some hcut
    refine ⟨hblank, happend, List.contains_iff_mem.1 hseparator, fun c hc => ?_⟩
    simpa using hleft c hc

/-- What an argument with a separator says. -/
theorem read_firstSeparator (h : FirstSeparator separators t left separator right) :
    read separators t =
      if separator.utf8Size = 1 then
        if dropDashes (Text.trim left) = [] then .none
        else .pair (dropDashes (Text.trim left)) (Text.trim right)
      else .undivided := by
  obtain ⟨hblank, hcut⟩ := firstSeparator_iff.1 h
  rw [read, hblank]
  simp only [hcut, Bool.false_eq_true, if_false]
  by_cases hone : separator.utf8Size = 1 <;> simp [dividesAt, hone]

theorem cuts_firstSeparator (h : FirstSeparator separators t left separator right) :
    cuts separators t = [Text.bytes left, Text.bytes left + 1] := by
  obtain ⟨hblank, hcut⟩ := firstSeparator_iff.1 h
  simp [cuts, hblank, hcut]

/-- Without a separator there is nothing to divide. -/
theorem read_and_cuts_of_no_separator
    (h : ∀ left separator right, ¬ FirstSeparator separators t left separator right) :
    read separators t ≠ .undivided ∧ cuts separators t = [] := by
  by_cases hblank : Text.isBlank t
  · simp [read, cuts, hblank]
  · have hblank : Text.isBlank t = false := by simpa using hblank
    have hcut : Text.cutAt? separators.contains (unquote t) = Option.none := by
      rw [Option.eq_none_iff_forall_ne_some]
      rintro ⟨left, separator, right⟩ hcut
      exact h left separator right (firstSeparator_iff.2 ⟨hblank, hcut⟩)
    refine ⟨?_, by simp [cuts, hblank, hcut]⟩
    rw [read, hblank]
    simp only [hcut, Bool.false_eq_true, if_false]
    repeat' split
    all_goals simp

theorem exists_of_read_eq_undivided (h : read separators t = .undivided) :
    ∃ left separator right, FirstSeparator separators t left separator right ∧
      separator.utf8Size ≠ 1 := by
  by_contra hnone
  refine (read_and_cuts_of_no_separator fun left separator right hfirst => ?_).1 h
  refine hnone ⟨left, separator, right, hfirst, fun hone => ?_⟩
  rw [read_firstSeparator hfirst, if_pos hone] at h
  split at h <;> cases h

/-- An argument cannot be read if and only if it is to be divided within a character. -/
theorem read_eq_undivided_iff : read separators t = .undivided ↔
    ∃ n ∈ cuts separators t, ¬ Text.IsBoundary (unquote t) n := by
  constructor
  · intro h
    obtain ⟨left, separator, right, hfirst, hbytes⟩ := exists_of_read_eq_undivided h
    refine ⟨Text.bytes left + 1, by simp [cuts_firstSeparator hfirst], ?_⟩
    rw [hfirst.eq_append]
    exact mt Text.isBoundary_behind_iff.1 hbytes
  · rintro ⟨n, hn, hwithin⟩
    by_contra hread
    have hfirst (left : Text) (separator : Char) (right : Text) :
        ¬ FirstSeparator separators t left separator right := by
      intro hfirst
      rw [read_firstSeparator hfirst] at hread
      rw [cuts_firstSeparator hfirst] at hn
      rw [hfirst.eq_append] at hwithin
      rcases List.mem_cons.1 hn with rfl | hn
      · exact hwithin (Text.isBoundary_front left (separator :: right))
      · obtain rfl := List.mem_singleton.1 hn
        exact hread (if_neg (mt Text.isBoundary_behind_iff.2 hwithin))
    simp [(read_and_cuts_of_no_separator hfirst).2] at hn

/-- A separator in front of a letter is the first one of an argument. -/
theorem firstSeparator_in_front (hmem : separator ∈ separators)
    (hbytes : separator.utf8Size ≠ 1) :
    FirstSeparator separators [separator, 'a'] [] separator ['a'] where
  not_blank := not_isBlank_of_mem (c := 'a') (by simp) (by decide)
  eq_append := by
    refine unquote_of_bare fun c hc => ?_
    obtain rfl : separator = c := by simpa using hc
    intro hquote
    rcases List.mem_cons.1 hquote with rfl | hquote
    · exact hbytes rfl
    · obtain rfl := List.mem_singleton.1 hquote
      exact hbytes rfl
  mem := hmem
  not_mem := by simp

end Argument

namespace Arguments

/-- The arguments that are read, in order: not the values of options, and nothing behind the end. -/
def examined (separators : List Char) : List Text → List Text
  | [] => []
  | t :: rest =>
    match Argument.read separators t with
    | .none | .pair _ _ => t :: examined separators rest
    | .stop | .undivided => [t]
    | .option _ =>
      match rest with
      | [] => [t]
      | next :: rest' =>
        if Argument.isDashed next then t :: examined separators (next :: rest')
        else t :: examined separators rest'

variable {separators : List Char}

theorem mem_examined_cons (t : Text) (rest : List Text) : t ∈ examined separators (t :: rest) := by
  unfold examined
  repeat' split
  all_goals exact List.mem_cons_self

/-- Arguments that can be divided are passed over. -/
theorem mem_cons_undivided_iff {t u : Text} (hu : Argument.read separators u ≠ .undivided)
    (rest : List Text) :
    t ∈ u :: rest ∧ Argument.read separators t = .undivided ↔
      t ∈ rest ∧ Argument.read separators t = .undivided := by
  rw [List.mem_cons]
  constructor
  · rintro ⟨rfl | hmem, ht⟩
    · exact absurd ht hu
    · exact ⟨hmem, ht⟩
  · rintro ⟨hmem, ht⟩
    exact ⟨.inr hmem, ht⟩

/-- Reading ends at an argument that cannot be divided if and only if it comes to one. -/
theorem ending_eq_undivided_iff {arguments : List Text} {t : Text} :
    (read separators arguments).ending = .undivided t ↔
      t ∈ examined separators arguments ∧ Argument.read separators t = .undivided := by
  fun_induction read separators arguments with
  | case1 => simp [examined]
  | case2 u rest hread ih =>
    unfold examined
    simp only [hread]
    rw [ih, mem_cons_undivided_iff (by simp [hread])]
  | case3 u rest key value hread ih =>
    unfold examined
    simp only [hread]
    rw [mem_cons_undivided_iff (by simp [hread])]
    exact ih
  | case4 u rest hread =>
    unfold examined
    simp only [hread]
    rw [mem_cons_undivided_iff (by simp [hread])]
    simp
  | case5 u rest hread =>
    unfold examined
    simp only [hread, List.mem_singleton, Ending.undivided.injEq]
    exact ⟨fun heq => ⟨heq.symm, heq ▸ hread⟩, fun h => h.1.symm⟩
  | case6 u key hread =>
    unfold examined
    simp only [hread]
    rw [mem_cons_undivided_iff (by simp [hread])]
    simp
  | case7 u key hread next rest hdashed ih =>
    unfold examined
    simp only [hread, if_pos hdashed]
    rw [mem_cons_undivided_iff (by simp [hread])]
    exact ih
  | case8 u key hread next rest hdashed ih =>
    unfold examined
    simp only [hread, if_neg hdashed]
    rw [mem_cons_undivided_iff (by simp [hread])]
    exact ih

/-- **Dividing arguments at any separators.** All arguments can be read if and only if none of those
that are examined is divided within a character. With separators of one byte each that is so for all
arguments, and with others it is not. An argument whose first separator takes up one byte gives the
trimmed text in front of it, without its dashes, as the key, and the trimmed text behind it as the
value. -/
theorem divided_at_characters_iff (separators : List Char) :
    (∀ arguments,
      (∀ t, (read separators arguments).ending ≠ .undivided t) ↔
        ∀ t ∈ examined separators arguments, ∀ n ∈ Argument.cuts separators t,
          Text.IsBoundary (Argument.unquote t) n) ∧
    ((∀ arguments t, (read separators arguments).ending ≠ .undivided t) ↔
      ∀ c ∈ separators, c.utf8Size = 1) ∧
    ∀ t left separator right, Argument.FirstSeparator separators t left separator right →
      Argument.read separators t =
        if separator.utf8Size = 1 then
          if Argument.dropDashes (Text.trim left) = [] then .none
          else .pair (Argument.dropDashes (Text.trim left)) (Text.trim right)
        else .undivided := by
  refine ⟨fun arguments => ?_, ⟨fun h c hc => ?_, fun h arguments t hending => ?_⟩,
    fun t left separator right => Argument.read_firstSeparator⟩
  · constructor
    · intro hread t ht n hn
      by_contra hwithin
      have hundivided := Argument.read_eq_undivided_iff.2 ⟨n, hn, hwithin⟩
      exact hread t (ending_eq_undivided_iff.2 ⟨ht, hundivided⟩)
    · intro hcuts t hending
      obtain ⟨ht, hread⟩ := ending_eq_undivided_iff.1 hending
      obtain ⟨n, hn, hwithin⟩ := Argument.read_eq_undivided_iff.1 hread
      exact hwithin (hcuts t ht n hn)
  · by_contra hbytes
    have hfirst := Argument.firstSeparator_in_front hc hbytes
    have hread : Argument.read separators [c, 'a'] = .undivided := by
      rw [Argument.read_firstSeparator hfirst, if_neg hbytes]
    exact h [[c, 'a']] [c, 'a'] (ending_eq_undivided_iff.2 ⟨mem_examined_cons _ _, hread⟩)
  · obtain ⟨left, separator, right, hfirst, hbytes⟩ :=
      Argument.exists_of_read_eq_undivided (ending_eq_undivided_iff.1 hending).2
    exact hbytes (h separator hfirst.mem)

/-- Where `→` and `=` are the separators, `--host = a→b` is divided at the `=`, so it can be read,
and `b→=` is divided at the `→`. -/
theorem divided_at_characters_iff_mixed :
    let separators := ['→', '=']
    let t := "--host = a→b".toList
    Argument.read separators t = .pair "host".toList "a→b".toList ∧
      Argument.read separators "b→=".toList = .undivided ∧
      ¬ ∀ arguments t, (read separators arguments).ending ≠ .undivided t := by
  intro separators t
  obtain ⟨-, hall, hone⟩ := divided_at_characters_iff separators
  have hequals : Argument.FirstSeparator separators t "--host ".toList '=' " a→b".toList :=
    ⟨by decide, rfl, by decide, by simp [separators]⟩
  have harrow : Argument.FirstSeparator separators "b→=".toList ['b'] '→' ['='] :=
    ⟨by decide, rfl, by decide, by simp [separators]⟩
  refine ⟨hone _ _ _ _ hequals, hone _ _ _ _ harrow, fun hnone => ?_⟩
  exact absurd (hall.1 hnone '→' List.mem_cons_self) (by decide)

/-- With the separator `→`, the argument `a→b` is divided behind one byte, where the separator is,
and behind two bytes, which is within it. -/
theorem divided_within_separator :
    let separators := (({} : Policy).withSeparators ['→']).separators
    (read separators ["a→b".toList]).ending = .undivided "a→b".toList ∧
      Argument.cuts separators "a→b".toList = [1, 2] ∧
      ¬ Text.IsBoundary (Argument.unquote "a→b".toList) 2 := by
  refine ⟨by decide, by decide, ?_⟩
  exact mt (Text.isBoundary_behind_iff (a := ['a']) (b := ['b']) (c := '→')).1 (by decide)

end Arguments

end PropertyConfig
