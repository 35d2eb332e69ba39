import PropertyConfig.Proofs.Condition
import PropertyConfig.Proofs.Line
import PropertyConfig.Proofs.Text.Letters
import PropertyConfig.Proofs.Text.Prefixes

/-!
# Written lines

A line is written from its fields with blanks wherever they do not count (`Line.Written`). Reading
tries one directive after the other, by what the line starts with and then by the word before `=`,
so the fields must not make one kind of line look like another (`Line.Admissible`). Main statement:
`Line.read_written`.
-/

namespace PropertyConfig.Line

/-! ## Fields -/

/-- The words that a line is known by from its front, whatever comes behind them. -/
def leadingWords : List Text := [ifWord, otherwiseWord, endIfWord, logWord]

/-- The words that a line is known by if they stand before `=`. -/
def assignedWords : List Text :=
  [inclusionWord, optionalInclusionWord, debugModeWord, configUrlKey, nameKey]

/-- A key that a property can be written with. -/
structure IsPropertyKey (key : Text) : Prop where
  ne_nil : key ≠ []
  trimmed : Text.trim key = key
  undivided : '=' ∉ key
  head_plain : ∀ c ∈ key.head?, c ∉ ['#', '!', '%']

/-- A key with a leading `%` that is not one of the words above. -/
structure IsUnknownKey (key : Text) : Prop where
  head : key.head? = some '%'
  trimmed : Text.trim key = key
  undivided : '=' ∉ key
  not_leading : ∀ word ∈ leadingWords, ¬ word <+: key
  not_assigned : ∀ word ∈ assignedWords, Text.sameLetters key word = false

/-- The fields of a line can be told apart where it is written. -/
def Admissible : Line → Prop
  | .ignored | .invalidIf _ | .condition (.error _) => False
  | .condition (.ok test) => test.IsWritable
  | .otherwise _ | .endIf _ => True
  | .log value | .inclusion value _ | .debugMode value | .reserved _ value =>
    Text.trim value = value
  | .unknown key => IsUnknownKey key
  | .property key value => IsPropertyKey key ∧ Text.trimEnd value = value

/-- The word before `=` and the value behind it, for the lines that are known by that word. -/
def assignedWord? : Line → Option (Text × Text)
  | .inclusion value false => some (inclusionWord, value)
  | .inclusion value true => some (optionalInclusionWord, value)
  | .debugMode value => some (debugModeWord, value)
  | .reserved key value => some (key.key, value)
  | _ => none

/-! ## Writing -/

/-- The texts that a line is written as, from its first character to its last one. -/
inductive Spelled : Line → Text → Prop
  | condition {test : Condition} {text gap : Text} (h : test.Written text) (hgap : Text.isBlank gap)
      (hne : gap ≠ []) : Spelled (.condition (.ok test)) (ifWord ++ (gap ++ text))
  | otherwise (rest : Text) : Spelled (.otherwise (!Text.isBlank rest)) (otherwiseWord ++ rest)
  | endIf (rest : Text) : Spelled (.endIf (!Text.isBlank rest)) (endIfWord ++ rest)
  | log (message : Text) {gap gap' : Text} (hgap : Text.isBlank gap) (hgap' : Text.isBlank gap') :
      Spelled (.log message) (logWord ++ (gap ++ '=' :: (gap' ++ message)))
  | assigned {line : Line} {word value : Text} (h : line.assignedWord? = some (word, value))
      {spelling gap gap' : Text} (hspelling : Text.sameLetters spelling word)
      (hgap : Text.isBlank gap) (hgap' : Text.isBlank gap') :
      Spelled line (spelling ++ gap ++ '=' :: (gap' ++ value))
  | unknown (key value : Text) {gap : Text} (hgap : Text.isBlank gap) :
      Spelled (.unknown key) (key ++ gap ++ '=' :: value)
  | property (key value : Text) {gap : Text} (hgap : Text.isBlank gap) :
      Spelled (.property key value) (key ++ gap ++ '=' :: value)

/-- The texts that a line is written as: blanks can stand at either end. -/
def Written (l : Line) (raw : Text) : Prop :=
  ∃ before text after, Text.isBlank before ∧ Text.isBlank after ∧ l.Spelled text ∧
    raw = before ++ text ++ after

theorem exists_spelled_of_assignedWord? {l : Line} {word value : Text}
    (h : l.assignedWord? = some (word, value)) : ∃ text, l.Spelled text :=
  ⟨_, .assigned h (Text.sameLetters_iff.2 rfl) Text.isBlank_nil Text.isBlank_nil⟩

theorem exists_spelled {l : Line} (hl : l.Admissible) : ∃ text, l.Spelled text := by
  cases l with
  | ignored | invalidIf => exact hl.elim
  | condition test =>
    cases test with
    | error => exact hl.elim
    | ok test =>
      have hgap : Text.isBlank [' '] := rfl
      obtain ⟨text, htext⟩ := Condition.exists_written hl
      exact ⟨_, .condition htext hgap (List.cons_ne_nil _ _)⟩
  | otherwise trailing =>
    cases trailing with
    | false => exact ⟨_, .otherwise []⟩
    | true => exact ⟨_, .otherwise ['x']⟩
  | endIf trailing =>
    cases trailing with
    | false => exact ⟨_, .endIf []⟩
    | true => exact ⟨_, .endIf ['x']⟩
  | log message => exact ⟨_, .log message Text.isBlank_nil Text.isBlank_nil⟩
  | inclusion value isOptional => cases isOptional <;> exact exists_spelled_of_assignedWord? rfl
  | debugMode value => exact exists_spelled_of_assignedWord? rfl
  | reserved key value => exact exists_spelled_of_assignedWord? rfl
  | unknown key => exact ⟨_, .unknown key [] Text.isBlank_nil⟩
  | property key value => exact ⟨_, .property key value Text.isBlank_nil⟩

/-! ## Lines known by their front -/

theorem read_surrounded {before after : Text} (hbefore : Text.isBlank before)
    (hafter : Text.isBlank after) (text : Text) : read (before ++ text ++ after) = read text := by
  rw [read, Text.trim_surrounded hbefore hafter, read]

theorem read_of_trim {raw d : Text} (htrim : Text.trim raw = d) (hne : d ≠ [])
    (hcomment : isComment d = false) : read raw = (readDirective? d).getD (readAssignment d) := by
  simp [read, htrim, hne, hcomment]

/-- Behind a word that a line is known by, only the end is trimmed. -/
theorem read_leading {word : Text} (hword : word ∈ leadingWords) {rest : Text} {l : Line}
    (h : readDirective? (word ++ Text.trimEnd rest) = some l) : read (word ++ rest) = l := by
  have hfixed : ∀ word ∈ leadingWords,
      word ≠ [] ∧ Text.trim word = word ∧ isComment word = false := by decide
  obtain ⟨hne, htrim, hcomment⟩ := hfixed word hword
  have hcomment : isComment (word ++ Text.trimEnd rest) = false := by
    rwa [isComment, List.head?_append_of_ne_nil _ hne]
  rw [read_of_trim (Text.trim_append hne htrim rest) (by simp [hne]) hcomment, h, Option.getD_some]

theorem readDirective?_if (rest : Text) :
    readDirective? (ifWord ++ rest) = some (readIf (ifWord ++ rest) rest) := by
  rw [readDirective?, Text.after?_append]

theorem readDirective?_otherwise (rest : Text) :
    readDirective? (otherwiseWord ++ rest) = some (.otherwise (rest != [])) := by
  have hif : Text.after? ifWord (otherwiseWord ++ rest) = none := rfl
  rw [readDirective?, hif, Text.after?_append]

theorem readDirective?_endIf (rest : Text) :
    readDirective? (endIfWord ++ rest) = some (.endIf (rest != [])) := by
  have hif : Text.after? ifWord (endIfWord ++ rest) = none := rfl
  have hotherwise : Text.after? otherwiseWord (endIfWord ++ rest) = none := rfl
  rw [readDirective?, hif, hotherwise, Text.after?_append]

theorem readDirective?_log (rest : Text) :
    readDirective? (logWord ++ rest) = some (.log (logMessage rest)) := by
  have hif : Text.after? ifWord (logWord ++ rest) = none := rfl
  have hotherwise : Text.after? otherwiseWord (logWord ++ rest) = none := rfl
  have hendIf : Text.after? endIfWord (logWord ++ rest) = none := rfl
  rw [readDirective?, hif, hotherwise, hendIf, Text.after?_append, Option.map_some]

theorem readDirective?_eq_none_of_not_leading {d : Text} (h : ∀ word ∈ leadingWords, ¬ word <+: d) :
    readDirective? d = none := by
  have h : ∀ word ∈ leadingWords, Text.after? word d = none := fun word hword =>
    Text.after?_eq_none_iff.2 (h word hword)
  simp only [leadingWords, List.forall_mem_cons] at h
  obtain ⟨hif, hotherwise, hendIf, hlog, -⟩ := h
  simp [readDirective?, hif, hotherwise, hendIf, hlog]

/-- The separator in front of a message is not part of it. -/
theorem logMessage_equals {gap gap' message : Text} (hgap : Text.isBlank gap)
    (hgap' : Text.isBlank gap') (hmessage : Text.trim message = message) :
    logMessage (Text.trimEnd (gap ++ '=' :: (gap' ++ message))) = message := by
  have htrim : Text.trim (Text.trimEnd (gap ++ '=' :: (gap' ++ message))) =
      '=' :: Text.trimEnd (gap' ++ message) := by
    rw [Text.trim_trimEnd, Text.trim_append_left_of_isBlank hgap]
    exact Text.trim_append (List.cons_ne_nil '=' []) (by decide) (gap' ++ message)
  rw [logMessage, htrim]
  simp [Text.trim_trimEnd, Text.trim_append_left_of_isBlank hgap', hmessage]

theorem readIf_written {test : Condition} {text gap : Text} (htest : test.IsWritable)
    (h : test.Written text) (hgap : Text.isBlank gap) (hne : gap ≠ []) (written : Text) :
    readIf written (Text.trimEnd (gap ++ text)) = .condition (.ok test) := by
  obtain ⟨d, rest, hcons, hd⟩ := h.exists_cons htest
  obtain ⟨c, gap', rfl⟩ := List.exists_cons_of_ne_nil hne
  have hc : Text.isBlankChar c := List.all_eq_true.1 hgap c List.mem_cons_self
  have htrim : Text.trim (Text.trimEnd (c :: gap' ++ text)) = Text.trim text := by
    rw [Text.trim_trimEnd, Text.trim_append_left_of_isBlank hgap]
  have hread : Condition.read (Text.trimEnd (c :: gap' ++ text)) = .ok test :=
    (Condition.read_congr htrim).trans (h.read_eq htest)
  rw [hcons, Text.trimEnd_append_cons hd] at hread ⊢
  simp only [readIf, List.cons_append] at hread ⊢
  rw [if_pos hc, hread]

/-! ## Lines that assign -/

/-- A key that is found again before `=`, with nothing else tried before. -/
structure IsKey (key : Text) : Prop where
  ne_nil : key ≠ []
  trimmed : Text.trim key = key
  undivided : '=' ∉ key
  not_comment : isComment key = false
  not_leading : ∀ word ∈ leadingWords, ¬ word <+: key

theorem IsPropertyKey.isKey {key : Text} (h : IsPropertyKey key) : IsKey key where
  ne_nil := h.ne_nil
  trimmed := h.trimmed
  undivided := h.undivided
  not_comment := by
    rw [isComment, Option.any_eq_false]
    intro c hc
    have hplain := h.head_plain c hc
    simp only [List.mem_cons, List.not_mem_nil, or_false, not_or] at hplain
    simp [hplain]
  not_leading := by
    have hhead : ∀ word ∈ leadingWords, word.head? = some '%' := by decide
    rintro word hword ⟨rest, rfl⟩
    refine h.head_plain '%' ?_ (by decide)
    rw [List.head?_append, hhead word hword]
    rfl

theorem IsUnknownKey.isKey {key : Text} (h : IsUnknownKey key) : IsKey key where
  ne_nil := by
    rintro rfl
    cases h.head
  trimmed := h.trimmed
  undivided := h.undivided
  not_comment := by
    rw [isComment, h.head]
    rfl
  not_leading := h.not_leading

theorem readReserved_eq_unknown {key : Text}
    (h : ∀ word ∈ assignedWords, Text.sameLetters key word = false) (value : Text) :
    readReserved key value = .unknown key := by
  simp only [assignedWords, List.forall_mem_cons] at h
  obtain ⟨hinclusion, hoptional, hdebug, hurl, hname, -⟩ := h
  simp [readReserved, hinclusion, hoptional, hdebug, hurl, hname]

theorem mem_assignedWords {l : Line} {word value : Text}
    (h : l.assignedWord? = some (word, value)) : word ∈ assignedWords := by
  cases l with
  | inclusion target isOptional => cases isOptional <;> cases h <;> decide
  | debugMode => cases h; decide
  | reserved key => cases key <;> cases h <;> decide
  | _ => cases h

theorem Admissible.trim_value {l : Line} (hl : l.Admissible) {word value : Text}
    (h : l.assignedWord? = some (word, value)) : Text.trim value = value := by
  cases l with
  | inclusion target isOptional => cases isOptional <;> cases h <;> exact hl
  | debugMode => cases h; exact hl
  | reserved => cases h; exact hl
  | _ => cases h

/-- The letters of the word can be of either case. -/
theorem readReserved_of_sameLetters {l : Line} {word value spelling : Text}
    (h : l.assignedWord? = some (word, value)) (hspelling : Text.sameLetters spelling word) :
    readReserved spelling value = l := by
  have hcongr (other : Text) : Text.sameLetters spelling other = Text.sameLetters word other := by
    rw [Text.sameLetters, Text.sameLetters_iff.1 hspelling, Text.sameLetters]
  simp only [readReserved, hcongr]
  cases l with
  | inclusion target isOptional => cases isOptional <;> cases h <;> rfl
  | debugMode => cases h; rfl
  | reserved key => cases key <;> cases h <;> rfl
  | _ => cases h

/-- A blank or a separator is in none of the words, whatever the letters. -/
theorem plain_of_sameLetters {word spelling : Text} (hword : word ∈ assignedWords)
    (h : Text.sameLetters spelling word) :
    ∀ c ∈ spelling, Text.isBlankChar c = false ∧ c ≠ '=' ∧ c ≠ ':' := by
  have hwords : ∀ word ∈ assignedWords,
      (Text.toLower word).all fun c => !Text.isBlankChar c && (c != '=' && c != ':') := by decide
  intro c hc
  have hmem : c.toLower ∈ Text.toLower word := Text.sameLetters_iff.1 h ▸ Text.toLower_mem hc
  have hlower := List.all_eq_true.1 (hwords word hword) _ hmem
  rw [Text.isBlankChar_toLower] at hlower
  refine ⟨by simpa using (Bool.and_eq_true_iff.1 hlower).1, ?_, ?_⟩
  all_goals
    rintro rfl
    simp at hlower

/-- The words are keys in any letters. -/
theorem isKey_of_sameLetters {word spelling : Text} (hword : word ∈ assignedWords)
    (h : Text.sameLetters spelling word) : IsKey spelling ∧ spelling.head? = some '%' := by
  have hplain := plain_of_sameLetters hword h
  have h : Text.toLower spelling = Text.toLower word := Text.sameLetters_iff.1 h
  have hhead : spelling.head? = some '%' := by
    have hwords : ∀ word ∈ assignedWords, (Text.toLower word).head? = some '%' := by decide
    have hlower : spelling.head?.map Char.toLower = some '%' := by
      rw [← hwords word hword, ← h, Text.toLower, List.head?_map]
    obtain ⟨c, hc, hlower⟩ := Option.map_eq_some_iff.1 hlower
    rw [hc, Text.eq_of_toLower_eq (by decide) hlower]
  refine ⟨⟨?_, ?_, ?_, ?_, ?_⟩, hhead⟩
  · rintro rfl
    cases hhead
  · exact Text.trim_eq_self_of_plain fun c hc => (hplain c hc).1
  · exact fun hmem => (hplain _ hmem).2.1 rfl
  · rw [isComment, hhead]
    rfl
  · have hwords : ∀ word ∈ assignedWords, ∀ leading ∈ leadingWords,
        ¬ Text.toLower leading <+: Text.toLower word := by decide
    intro leading hleading hprefix
    exact hwords word hword leading hleading (h ▸ Text.toLower_isPrefix hprefix)

theorem IsKey.readAssignment_equals {key gap : Text} (h : IsKey key) (hgap : Text.isBlank gap)
    (value : Text) :
    readAssignment (key ++ gap ++ '=' :: value) =
      if key.head? = some '%' then readReserved key (Text.trim value) else .property key value := by
  have hundivided : '=' ∉ key ++ gap := by
    rw [List.mem_append, not_or]
    exact ⟨h.undivided, fun hmem => absurd (List.all_eq_true.1 hgap _ hmem) (by decide)⟩
  have hkey : Text.trim (key ++ gap) = key := (Text.trim_append_of_isBlank hgap key).trans h.trimmed
  rw [readAssignment, splitPair_equals hundivided, hkey]
  cases key with
  | nil => exact absurd rfl h.ne_nil
  | cons c key => simp

/-- Neither a blank nor `=` is in a word, so no word goes on behind a key. -/
theorem IsKey.readDirective?_append {key rest : Text} (h : IsKey key)
    (hrest : ∀ c ∈ rest.head?, Text.isBlankChar c ∨ c = '=') :
    readDirective? (key ++ rest) = none := by
  have hplain : ∀ word ∈ leadingWords, word.all fun c => !Text.isBlankChar c && c != '=' := by
    decide
  refine readDirective?_eq_none_of_not_leading fun word hword hprefix => ?_
  refine h.not_leading word hword (Text.isPrefix_of_isPrefix_append hprefix fun c hc hmem => ?_)
  have hc := hrest c hc
  have hnot := List.all_eq_true.1 (hplain word hword) c hmem
  simp only [Bool.and_eq_true, Bool.not_eq_true', bne_iff_ne] at hnot
  simp [hnot] at hc

theorem IsKey.read_equals {key gap : Text} (h : IsKey key) (hgap : Text.isBlank gap)
    (value : Text) :
    read (key ++ gap ++ '=' :: value) =
      if key.head? = some '%' then readReserved key (Text.trim value)
      else .property key (Text.trimEnd value) := by
  have hstart : Text.startsBare (key ++ gap) :=
    Text.startsBare_append h.ne_nil (Text.trim_eq_self_iff.1 h.trimmed).1 gap
  have htrim : Text.trim (key ++ gap ++ '=' :: value) = key ++ gap ++ '=' :: Text.trimEnd value :=
    Text.trim_append_cons_eq (by simp [h.ne_nil]) hstart (by decide) value
  have hcomment : isComment (key ++ gap ++ '=' :: Text.trimEnd value) = false := by
    rw [isComment, List.append_assoc, List.head?_append_of_ne_nil _ h.ne_nil]
    exact h.not_comment
  have hdirective : readDirective? (key ++ gap ++ '=' :: Text.trimEnd value) = none := by
    rw [List.append_assoc]
    refine h.readDirective?_append fun c hc => ?_
    cases gap with
    | nil => exact .inr (Option.some.inj hc).symm
    | cons d gap =>
      obtain rfl : d = c := Option.some.inj hc
      exact .inl (List.all_eq_true.1 hgap d List.mem_cons_self)
  rw [read_of_trim htrim (by simp) hcomment, hdirective, Option.getD_none,
    h.readAssignment_equals hgap, Text.trim_trimEnd]

/-- What is written from the first character to the last one is read. -/
theorem read_spelled {l : Line} (hl : l.Admissible) {text : Text} (h : l.Spelled text) :
    read text = l := by
  cases h with
  | condition h hgap hne =>
    exact read_leading (by decide) ((readDirective?_if _).trans
      (congrArg some (readIf_written hl h hgap hne _)))
  | otherwise rest =>
    refine read_leading (by decide) ?_
    rw [readDirective?_otherwise, Text.trimEnd_bne_nil]
  | endIf rest =>
    refine read_leading (by decide) ?_
    rw [readDirective?_endIf, Text.trimEnd_bne_nil]
  | log message hgap hgap' =>
    refine read_leading (by decide) ?_
    rw [readDirective?_log, logMessage_equals hgap hgap' hl]
  | @assigned _ word value h spelling gap gap' hspelling hgap hgap' =>
    obtain ⟨hkey, hhead⟩ := isKey_of_sameLetters (mem_assignedWords h) hspelling
    rw [hkey.read_equals hgap, if_pos hhead, Text.trim_append_left_of_isBlank hgap',
      hl.trim_value h, readReserved_of_sameLetters h hspelling]
  | unknown key value hgap =>
    have hkey : IsUnknownKey key := hl
    rw [hkey.isKey.read_equals hgap, if_pos hkey.head, readReserved_eq_unknown hkey.not_assigned]
  | property key value hgap =>
    obtain ⟨hkey, hvalue⟩ := hl
    have hhead : key.head? ≠ some '%' := fun h => hkey.head_plain '%' h (by decide)
    rw [hkey.isKey.read_equals hgap, if_neg hhead, hvalue]

/-- A reserved key is read with its value. -/
theorem read_reserved (key : ReservedKey) {value : Text} (hvalue : Text.trim value = value) :
    read (key.key ++ '=' :: value) = .reserved key value := by
  have hspelled : (Line.reserved key value).Spelled (key.key ++ [] ++ '=' :: ([] ++ value)) :=
    .assigned rfl (Text.sameLetters_iff.2 rfl) Text.isBlank_nil Text.isBlank_nil
  rw [List.append_nil, List.nil_append] at hspelled
  have hadmissible : (Line.reserved key value).Admissible := hvalue
  exact read_spelled hadmissible hspelled

/-- **Lines are read as what was written.** A line with admissible fields can be written, and every
text that it is written as is read as this line, wherever blanks do not count and in whatever
letters the words before `=` are. -/
theorem read_written {l : Line} (hl : l.Admissible) :
    (∃ raw, l.Written raw) ∧ ∀ raw, l.Written raw → read raw = l := by
  constructor
  · obtain ⟨text, htext⟩ := exists_spelled hl
    exact ⟨[] ++ text ++ [], [], text, [], Text.isBlank_nil, Text.isBlank_nil, htext, rfl⟩
  · rintro _ ⟨before, text, after, hbefore, hafter, htext, rfl⟩
    rw [read_surrounded hbefore hafter, read_spelled hl htext]

theorem read_written_inclusion :
    (Line.inclusion "ab".toList true).Admissible ∧
      (Line.inclusion "ab".toList true).Written " %INCLUDE? = ab ".toList ∧
      read " %INCLUDE? = ab ".toList = .inclusion "ab".toList true := by
  have hadmissible : (Line.inclusion "ab".toList true).Admissible := rfl
  have hspelled : (Line.inclusion "ab".toList true).Spelled
      ("%INCLUDE?".toList ++ [' '] ++ '=' :: ([' '] ++ "ab".toList)) := .assigned rfl rfl rfl rfl
  have hwritten : (Line.inclusion "ab".toList true).Written " %INCLUDE? = ab ".toList :=
    ⟨[' '], _, [' '], rfl, rfl, hspelled, rfl⟩
  exact ⟨hadmissible, hwritten, (read_written hadmissible).2 _ hwritten⟩

end PropertyConfig.Line
