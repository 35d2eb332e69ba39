import PropertyConfig.Load.Interpreter
import PropertyConfig.Proofs.Line.Written

/-!
# Lines that name no directive

A directive is known by its word: the characters in front of the first blank or separator
(`Line.leadingWord`). A line with a leading `%` and another word there is refused, with one
exception: `%log` is recognised wherever a line starts with it, so a longer word that starts like
this is taken for a message (`Line.IsUndocumented.refused_iff`).
-/

namespace PropertyConfig.Line

/-- Whether a word ends in front of this character. -/
def endsWord (c : Char) : Bool := Text.isBlankChar c || c == '=' || c == ':'

/-- The word that a line starts with. -/
def leadingWord (d : Text) : Text := d.takeWhile (!endsWord ·)

/-- The words of the directives. Letters of the other case make another word of those that are
known from their front. -/
def IsDirectiveWord (word : Text) : Prop :=
  word ∈ leadingWords ∨ ∃ known ∈ assignedWords, Text.sameLetters word known
deriving Decidable

/-- A line with a leading `%` that starts like none of a block's lines and has the word of no
directive. -/
structure IsUndocumented (raw : Text) : Prop where
  head : (Text.trim raw).head? = some '%'
  not_directive : ¬ IsDirectiveWord (leadingWord (Text.trim raw))
  not_block : ∀ word ∈ [ifWord, otherwiseWord, endIfWord], ¬ word <+: Text.trim raw

/-! ## The key and the leading word -/

/-- The key of a line is what stands in front of the separator, or all of the line. -/
theorem exists_splitPair_fst {d : Text} (htrim : Text.trim d = d) :
    ∃ front rest, d = front ++ rest ∧ (splitPair d).1 = Text.trim front ∧
      ∀ c ∈ rest.head?, endsWord c := by
  rw [splitPair]
  split
  · next key c value hcut =>
    obtain ⟨hd, hc, -⟩ := Text.cutAt?_eq_some hcut
    obtain rfl : c = '=' := of_decide_eq_true hc
    refine ⟨key, '=' :: value, hd, rfl, ?_⟩
    rintro _ ⟨⟩
    decide
  · split
    · next key c value hcut =>
      obtain ⟨hd, hc, -⟩ := Text.cutAt?_eq_some hcut
      obtain rfl : c = ':' := of_decide_eq_true hc
      refine ⟨key, ':' :: value, hd, rfl, ?_⟩
      rintro _ ⟨⟩
      decide
    · exact ⟨d, [], (List.append_nil d).symm, htrim.symm, by simp⟩

/-- A line that starts with no separator starts with its key, and the key ends where a word can
end. -/
theorem splitPair_isPrefix {d : Text} {first : Char} (htrim : Text.trim d = d)
    (hhead : d.head? = some first) (hfirst : endsWord first = false) :
    ∃ rest, d = (splitPair d).1 ++ rest ∧ (splitPair d).1.head? = some first ∧
      ∀ c ∈ rest.head?, endsWord c := by
  obtain ⟨front, rest, hd, hkey, hrest⟩ := exists_splitPair_fst htrim
  obtain ⟨front, rfl⟩ : ∃ t, front = first :: t := by
    cases front with
    | nil =>
      rw [hd, List.nil_append] at hhead
      exact absurd (hrest first hhead) (by simp [hfirst])
    | cons c t =>
      rw [hd] at hhead
      exact ⟨t, by rw [Option.some.inj hhead]⟩
  have hbare : Text.isBlankChar first = false := by
    rw [endsWord, Bool.or_assoc, Bool.or_eq_false_iff] at hfirst
    exact hfirst.1
  obtain ⟨gap, hgap, hfront⟩ := Text.exists_trimEnd_append front
  have hkey : (splitPair d).1 = first :: Text.trimEnd front := by
    rw [hkey, Text.trim, Text.trimStart_eq_self_iff.2 (by simp [Text.startsBare, hbare])]
    exact Text.trimEnd_append_cons hbare [] front
  refine ⟨gap ++ rest, ?_, by rw [hkey]; rfl, ?_⟩
  · rw [hkey, ← List.append_assoc, List.cons_append, hfront, ← hd]
  · cases gap with
    | nil => exact hrest
    | cons c gap =>
      rintro _ ⟨⟩
      have hc : Text.isBlankChar c := List.all_eq_true.1 hgap c List.mem_cons_self
      simp [endsWord, hc]

/-- A key that is the word of a directive is the leading word of its line. -/
theorem leadingWord_of_sameLetters {known key : Text} (hknown : known ∈ assignedWords)
    (h : Text.sameLetters key known) {rest : Text} (hrest : ∀ c ∈ rest.head?, endsWord c) :
    leadingWord (key ++ rest) = key := by
  refine Text.takeWhile_append_of_head (fun c hc => ?_) fun c hc => by simp [hrest c hc]
  simp [endsWord, plain_of_sameLetters hknown h c hc]

/-! ## Reading -/

namespace IsUndocumented

variable {raw : Text}

theorem read_eq_getD (h : IsUndocumented raw) :
    read raw = (readDirective? (Text.trim raw)).getD (readAssignment (Text.trim raw)) := by
  refine read_of_trim rfl (fun hnil => ?_) ?_
  · have hhead := h.head
    rw [hnil] at hhead
    cases hhead
  · rw [isComment, h.head]
    rfl

theorem readAssignment_eq (h : IsUndocumented raw) :
    readAssignment (Text.trim raw) = .unknown (splitPair (Text.trim raw)).1 := by
  obtain ⟨rest, hd, hhead, hrest⟩ := splitPair_isPrefix (Text.trim_trim raw) h.head (by decide)
  have hassigned : ∀ word ∈ assignedWords,
      Text.sameLetters (splitPair (Text.trim raw)).1 word = false := by
    intro word hword
    rw [← Bool.not_eq_true]
    intro hsame
    have hleading := leadingWord_of_sameLetters hword hsame hrest
    rw [← hd] at hleading
    exact h.not_directive (.inr ⟨word, hword, hleading.symm ▸ hsame⟩)
  obtain ⟨key, hkey⟩ := List.head?_eq_some_iff.1 hhead
  rw [hkey] at hassigned
  simp [readAssignment, hkey, readReserved_eq_unknown hassigned]

/-- The rest of a line that starts with `%log` is a message, even in the middle of a word. -/
theorem read_eq_log (h : IsUndocumented raw) (hlog : logWord <+: Text.trim raw) :
    ∃ message, read raw = .log message := by
  obtain ⟨rest, hd⟩ := hlog
  refine ⟨logMessage rest, ?_⟩
  rw [h.read_eq_getD, ← hd, readDirective?_log, Option.getD_some]

theorem read_eq_unknown (h : IsUndocumented raw) (hlog : ¬ logWord <+: Text.trim raw) :
    read raw = .unknown (splitPair (Text.trim raw)).1 := by
  have hnot : ∀ word ∈ leadingWords, ¬ word <+: Text.trim raw := by
    intro word hword
    rcases List.mem_append.1
      (show word ∈ [ifWord, otherwiseWord, endIfWord] ++ [logWord] from hword) with hblock | hlast
    · exact h.not_block word hblock
    · rwa [List.mem_singleton.1 hlast]
  rw [h.read_eq_getD, readDirective?_eq_none_of_not_leading hnot, Option.getD_none,
    h.readAssignment_eq]

/-- **A line that names no directive is refused unless it starts with `%log`.** Wherever it is
executed, it leaves the machine as it is and asks for no resource. It is read as unknown, and
exactly one error is noted for it, exactly if its word does not go on from `%log`; otherwise the
rest of the line is taken for a message. -/
theorem refused_iff (h : IsUndocumented raw) :
    ((∃ key, read raw = .unknown key) ↔ ¬ logWord <+: Text.trim raw) ∧
      ∀ (w : Surroundings) (reader : Option Reader) (c : Context) (line : Nat) (m : Machine),
        m.state ≠ .skipped →
          (step w reader c line m (read raw)).1 = m ∧
          (step w reader c line m (read raw)).2.filterMap Event.fetched? = [] ∧
          ((∃ d, (step w reader c line m (read raw)).2 = [.note d] ∧ d.severity = .error ∧
              d.source = c.source ∧ d.line = some line) ↔
            ¬ logWord <+: Text.trim raw) := by
  by_cases hlog : logWord <+: Text.trim raw
  · obtain ⟨message, hread⟩ := h.read_eq_log hlog
    refine ⟨by simp [hread, hlog], fun w reader c line m hstate => ?_⟩
    have hstep : step w reader c line m (.log message) = stepLog w c line m message := by
      simp [step, stepPlain, hstate]
    rw [hread, hstep, stepLog]
    -- there is at most a message, and that is no error
    split
    · exact ⟨rfl, rfl, by simp [hlog, Context.noteAt, Diagnostic.severity, Notice.severity]⟩
    · exact ⟨rfl, rfl, by simp [hlog]⟩
  · have hread := h.read_eq_unknown hlog
    refine ⟨by simp [hread, hlog], fun w reader c line m hstate => ?_⟩
    have hstep (key : Text) : step w reader c line m (.unknown key) =
        (m, [c.noteAt line (.unknownKey key)]) := by
      simp [step, stepPlain, hstate]
    rw [hread, hstep]
    exact ⟨rfl, rfl, fun _ => hlog, fun _ => ⟨_, rfl, rfl, rfl, rfl⟩⟩

theorem refused_iff_misspelt :
    IsUndocumented "%includes=a".toList ∧ (∃ key, read "%includes=a".toList = .unknown key) ∧
      ∀ (w : Surroundings) (reader : Option Reader) (c : Context) (line : Nat) (m : Machine),
        m.state ≠ .skipped →
          (step w reader c line m (read "%includes=a".toList)).1 = m ∧
          ∃ d, (step w reader c line m (read "%includes=a".toList)).2 = [.note d] ∧
            d.severity = .error := by
  have h : IsUndocumented "%includes=a".toList := ⟨by decide, by decide, by decide⟩
  have hlog : ¬ logWord <+: Text.trim "%includes=a".toList := by decide
  refine ⟨h, h.refused_iff.1.2 hlog, fun w reader c line m hstate => ?_⟩
  obtain ⟨hmachine, -, hnoted⟩ := h.refused_iff.2 w reader c line m hstate
  obtain ⟨d, hd, hseverity, -, -⟩ := hnoted.2 hlog
  exact ⟨hmachine, d, hd, hseverity⟩

/-- A word that goes on from `%log` is obeyed. -/
theorem logged_in_word :
    IsUndocumented "%logger=1".toList ∧
      read "%logger=1".toList = .log "ger=1".toList ∧
      ∀ (w : Surroundings) (reader : Option Reader) (c : Context) (line : Nat) (m : Machine),
        m.state ≠ .skipped →
          ∀ e ∈ (step w reader c line m (read "%logger=1".toList)).2,
            ∀ d ∈ e.diagnostic?, d.severity = .info := by
  have hread : read "%logger=1".toList = .log "ger=1".toList := rfl
  refine ⟨⟨by decide, by decide, by decide⟩, hread, fun w reader c line m hstate e he d hd => ?_⟩
  rw [hread] at he
  simp only [step, hstate, if_false, stepPlain, stepLog] at he
  split at he
  · obtain rfl := List.mem_singleton.1 he
    obtain rfl := Option.some.inj hd
    rfl
  · cases he

end IsUndocumented

end PropertyConfig.Line
