import PropertyConfig.Proofs.Load.Assignments
import PropertyConfig.Proofs.Store.Listing

/-!
# Where pairs are divided

A key, a separator and a value can stand in a row of properties, in an argument, or in a line of a
resource. Rows and arguments are divided at the first separator of either kind
(`IsPair.putListing_pairText`, `IsPair.putArguments_pairText`). A line is divided at the first `=`
if there is one, so behind a `:` it keeps only those values together that have no `=`
(`IsPair.divided_alike_iff`).
-/

namespace PropertyConfig

/-- A key and a value without blanks and quotes, and a separator between them. The key has no
separator in it, and no character in front that means something of its own there. -/
structure IsPair (key : Text) (separator : Char) (value : Text) : Prop where
  key_ne_nil : key ≠ []
  key_plain : ∀ c ∈ key, Text.isBlankChar c = false ∧ c ∉ ['\'', '"', '=', ':']
  key_head : ∀ c ∈ key.head?, c ∉ ['#', '!', '%', '|', '^', '-', '[']
  separator_mem : separator ∈ ['=', ':']
  value_plain : ∀ c ∈ value, Text.isBlankChar c = false ∧ c ∉ ['\'', '"']

/-- A pair as it is written. -/
def pairText (key : Text) (separator : Char) (value : Text) : Text := key ++ separator :: value

/-- The store that has nothing but an entry. -/
def Store.ofEntry (key value : Text) : Store := { entries := [(key, value)] }

/-- A load that finds nothing but an entry. -/
def Attempt.ofEntry (key value : Text) : Attempt LoadReport :=
  ⟨[], .ok { store := .ofEntry key value, diagnostics := [] }⟩

theorem Store.set_ofEntry {c : Char} (hc : isRemovalMarker c = false) (rest value : Text) :
    ({} : Store).set (c :: rest) value = .ofEntry (c :: rest) value :=
  set_emptied_of_assigned (p := {}) (e := (c :: rest, value)) (by simp [Policy.action, hc])

theorem Listing.isPlain_of_not_blank {c : Char} (h : Text.isBlankChar c = false) :
    Listing.isPlain {} c := by
  have hspace : c ≠ ' ' := fun heq => by simp [heq, Text.isBlankChar, Text.blankRuns] at h
  simp [isPlain, isDivider, h, hspace]

namespace IsPair

variable {key value : Text} {separator : Char}

section

variable (h : IsPair key separator value)

include h

theorem exists_key :
    ∃ c rest, key = c :: rest ∧ Text.isBlankChar c = false ∧ c ∉ ['\'', '"', '=', ':'] ∧
      c ∉ ['#', '!', '%', '|', '^', '-', '['] := by
  obtain ⟨c, rest, rfl⟩ := List.exists_cons_of_ne_nil h.key_ne_nil
  exact ⟨c, rest, rfl, (h.key_plain c List.mem_cons_self).1, (h.key_plain c List.mem_cons_self).2,
    h.key_head c rfl⟩

theorem not_mem_key {c : Char} (hc : c ∈ ['\'', '"', '=', ':']) : c ∉ key := fun hmem =>
  (h.key_plain c hmem).2 hc

theorem separator_eq : separator = '=' ∨ separator = ':' := by simpa using h.separator_mem

theorem not_blank_separator : Text.isBlankChar separator = false := by
  rcases h.separator_eq with rfl | rfl <;> decide

theorem not_blank : ∀ c ∈ pairText key separator value, Text.isBlankChar c = false := by
  intro c hc
  rcases List.mem_append.1 hc with hc | hc
  · exact (h.key_plain c hc).1
  · rcases List.mem_cons.1 hc with rfl | hc
    · exact h.not_blank_separator
    · exact (h.value_plain c hc).1

theorem trim_pairText : Text.trim (pairText key separator value) = pairText key separator value :=
  Text.trim_eq_self_of_plain h.not_blank

theorem trim_key : Text.trim key = key :=
  Text.trim_eq_self_of_plain fun c hc => (h.key_plain c hc).1

theorem trim_value : Text.trim value = value :=
  Text.trim_eq_self_of_plain fun c hc => (h.value_plain c hc).1

theorem set_key (more value' : Text) :
    ({} : Store).set (key ++ more) value' = .ofEntry (key ++ more) value' := by
  obtain ⟨c, rest, rfl, -, -, hc⟩ := h.exists_key
  simp only [List.mem_cons, not_or] at hc
  exact Store.set_ofEntry (by simp [isRemovalMarker, hc]) (rest ++ more) value'

/-! ## In a row -/

theorem readPair_pairText :
    Listing.readPair {} (pairText key separator value) = ((key, value), []) := by
  have hkey : ∀ c ∈ key, Listing.isKeyChar {} c := by
    intro c hc
    obtain ⟨hblank, hother⟩ := h.key_plain c hc
    simp only [List.mem_cons, List.not_mem_nil, or_false, not_or] at hother
    simp [Listing.isKeyChar, Listing.isSeparator, Listing.isPlain_of_not_blank hblank, hother]
  have hseparator : Listing.isSeparator {} separator := List.contains_iff_mem.2 h.separator_mem
  have hhead : value.head? ≠ some '"' := fun heq =>
    (h.value_plain '"' (List.mem_of_mem_head? heq)).2 (by simp)
  have hplain : ∀ c ∈ value, Listing.isPlain {} c := fun c hc =>
    Listing.isPlain_of_not_blank (h.value_plain c hc).1
  have hends : Listing.EndsHere {} [] := by simp [Listing.EndsHere]
  have hspan := Listing.span_isPlain hplain hends
  rw [List.append_nil] at hspan
  rw [pairText, Listing.readPair_append hkey hseparator h.not_blank_separator rfl,
    Listing.readValue_of_head hhead, hspan]

/-- In a row a pair is divided at the first separator. -/
theorem putListing_pairText (withName : Bool) :
    ({} : Store).perform (.putListing (pairText key separator value) withName) =
      .ofEntry key value := by
  obtain ⟨c, rest, hkey, hblank, -, hc⟩ := h.exists_key
  simp only [List.mem_cons, not_or] at hc
  have hcons : pairText key separator value = c :: (rest ++ separator :: value) := by
    rw [pairText, hkey, List.cons_append]
  have hpairs : Listing.readPairs {} (pairText key separator value) = [(key, value)] := by
    rw [Listing.readPairs_of_readPair h.readPair_pairText h.key_ne_nil
      ⟨c, _, hcons, Listing.isPlain_of_not_blank hblank⟩ (by simp [Listing.EndsHere]),
      Listing.readPairs_nil]
  have hname : key ≠ nameKey := fun heq => by
    rw [hkey, nameKey] at heq
    exact hc.2.2.1 (List.cons.inj heq).1
  have hlookup : (nameKey == key) = false := beq_eq_false_iff_ne.2 hname.symm
  have hread : Listing.read {} (pairText key separator value) = ⟨none, [(key, value)]⟩ := by
    rw [Listing.read_of_trimmed h.trim_pairText (by simp [hcons, hc]), hpairs]
    simp [List.lookup_cons, hname, hlookup]
  have hset := h.set_key [] value
  rw [List.append_nil] at hset
  rw [Store.perform, Operation.edits, hread]
  cases withName <;> exact hset

/-! ## As an argument -/

theorem read_argument :
    Argument.read ['=', ':'] (pairText key separator value) = .pair key value := by
  obtain ⟨c, rest, hkey, hblank, hquote, hc⟩ := h.exists_key
  simp only [List.mem_cons, not_or] at hquote hc
  have hcons : pairText key separator value = c :: (rest ++ separator :: value) := by
    rw [pairText, hkey, List.cons_append]
  have hnot : Text.isBlank (pairText key separator value) = false := by
    simp [hcons, Text.isBlank, hblank]
  have hunquote : Argument.unquote (pairText key separator value) =
      pairText key separator value := by
    simp [Argument.unquote, Argument.within?, hcons, hquote]
  have hcut : Text.cutAt? ['=', ':'].contains (pairText key separator value) =
      some (key, separator, value) :=
    Text.cutAt?_append (fun d hd => by
      obtain ⟨-, hother⟩ := h.key_plain d hd
      simp only [List.mem_cons, List.not_mem_nil, or_false, not_or] at hother
      simp [hother]) (List.contains_iff_mem.2 h.separator_mem) value
  have hdashes : Argument.dropDashes key = key := by
    rw [hkey]
    exact List.dropWhile_cons_of_neg (by simp [hc])
  have hdivides : Argument.dividesAt separator = true := by
    rcases h.separator_eq with rfl | rfl <;> decide
  rw [Argument.read, hnot, hunquote]
  simp only [hcut, h.trim_key, h.trim_value, hdashes, hdivides, h.key_ne_nil, Bool.false_eq_true,
    Bool.not_true, if_false]

/-- So is an argument. -/
theorem putArguments_pairText :
    ({} : Store).perform (.putArguments [pairText key separator value]) = .ofEntry key value := by
  have hread : Arguments.read ['=', ':'] [pairText key separator value] =
      ⟨[(key, value)], .exhausted⟩ := by
    simp [Arguments.read, h.read_argument, Arguments.push]
  have hset := h.set_key [] value
  rw [List.append_nil] at hset
  rw [Store.perform, Operation.edits, hread]
  exact hset

/-! ## In a line -/

section

variable (vars : List (Text × Text)) (fetch : Url → Except LoadError Text) (readUrl : UrlReader)
  (workingDirectory : Text)

/-- Where a line is divided, there the entry is divided that it is loaded as. -/
theorem loadText_pairText {more value' : Text}
    (hsplit : Line.splitPair (pairText key separator value) = (key ++ more, value')) :
    (Loader.ofDefaults vars fetch readUrl workingDirectory).loadText
        (pairText key separator value) =
      .ofEntry (key ++ more) value' := by
  obtain ⟨c, rest, hkey, hblank, -, hc⟩ := h.exists_key
  simp only [List.mem_cons, not_or] at hc
  have hcons : pairText key separator value = c :: (rest ++ separator :: value) := by
    rw [pairText, hkey, List.cons_append]
  have htrim := h.trim_pairText
  have hline : '\n' ∉ pairText key separator value := fun hmem => by
    have hblank := h.not_blank _ hmem
    simp [Text.isBlankChar, Text.blankRuns] at hblank
  have hread : Line.read (pairText key separator value) = .property (key ++ more) value' := by
    rw [hcons] at htrim hsplit ⊢
    rw [hkey, List.cons_append] at hsplit ⊢
    exact Line.read_eq_property htrim ⟨hc.1, hc.2.1, hc.2.2.1⟩ hsplit
  have hlines : (Text.lines (pairText key separator value)).map
      (fun raw => (Line.read raw).assigned?) = [(key ++ more, value')].map some := by
    rw [Text.lines_eq_singleton (by simp [pairText]) hline, List.map_singleton, hread]
    rfl
  have hset : Store.ofEntries {} [(key ++ more, value')] = .ofEntry (key ++ more) value' :=
    h.set_key more value'
  rw [Loader.loadText_of_assigned vars fetch readUrl workingDirectory hlines, hset]
  rfl

theorem loadText_of_undivided (hvalue : separator = '=' ∨ '=' ∉ value) :
    (Loader.ofDefaults vars fetch readUrl workingDirectory).loadText
        (pairText key separator value) =
      .ofEntry key value := by
  have hsplit : Line.splitPair (pairText key separator value) = (key ++ [], value) := by
    rw [List.append_nil]
    have hequals : '=' ∉ key := h.not_mem_key (by simp)
    rcases h.separator_eq with rfl | rfl
    · rw [pairText, Line.splitPair_equals hequals, h.trim_key]
    · have hvalue := hvalue.resolve_left (by decide)
      rw [pairText, Line.splitPair_colon (h.not_mem_key (by simp)) hequals hvalue, h.trim_key]
  have hload := h.loadText_pairText vars fetch readUrl workingDirectory hsplit
  rwa [List.append_nil] at hload

/-- Behind a `:`, a `=` in the value divides the line. -/
theorem loadText_of_divided (hseparator : separator = ':') {front back : Text}
    (hvalue : value = front ++ '=' :: back) (hfront : '=' ∉ front) :
    (Loader.ofDefaults vars fetch readUrl workingDirectory).loadText
        (pairText key separator value) =
      .ofEntry (key ++ ':' :: front) back := by
  refine h.loadText_pairText vars fetch readUrl workingDirectory ?_
  have hequals : '=' ∉ key := h.not_mem_key (by simp)
  -- the search for `=` passes the separator
  have htext : pairText key separator value = (key ++ ':' :: front) ++ '=' :: back := by
    simp [pairText, hseparator, hvalue]
  have htrim : Text.trim (key ++ ':' :: front) = key ++ ':' :: front := by
    refine Text.trim_eq_self_of_plain fun c hc => h.not_blank c ?_
    rw [htext]
    exact List.mem_append_left _ hc
  rw [htext, Line.splitPair_equals (by simp [hequals, hfront]), htrim]

end

end

/-- **Where a pair is divided.** Put into a new store from a row or from an argument, a pair gives
the one entry that it was written for. Loaded from a line it does so exactly if `=` separates it or
does not occur in its value. Otherwise the key of the entry goes on up to the first `=`. -/
theorem divided_alike_iff (h : IsPair key separator value) (vars : List (Text × Text))
    (fetch : Url → Except LoadError Text) (readUrl : UrlReader) (workingDirectory : Text) :
    let t := pairText key separator value
    let loaded := (Loader.ofDefaults vars fetch readUrl workingDirectory).loadText t
    (∀ withName, ({} : Store).perform (.putListing t withName) = .ofEntry key value) ∧
    ({} : Store).perform (.putArguments [t]) = .ofEntry key value ∧
    (loaded = .ofEntry key value ↔ separator = '=' ∨ '=' ∉ value) ∧
    ∀ front back, separator = ':' → value = front ++ '=' :: back → '=' ∉ front →
      loaded = .ofEntry (key ++ ':' :: front) back := by
  intro t loaded
  have hother : ∀ front back, separator = ':' → value = front ++ '=' :: back → '=' ∉ front →
      loaded = .ofEntry (key ++ ':' :: front) back := fun _ _ hseparator hvalue hfront =>
    h.loadText_of_divided vars fetch readUrl workingDirectory hseparator hvalue hfront
  refine ⟨h.putListing_pairText, h.putArguments_pairText, ⟨fun hload => ?_,
    h.loadText_of_undivided vars fetch readUrl workingDirectory⟩, hother⟩
  by_contra hdivided
  obtain ⟨hequals, hmem⟩ := not_or.1 hdivided
  obtain ⟨front, back, hvalue, hfront⟩ := List.eq_append_cons_of_mem (not_not.1 hmem)
  have hseparator : separator = ':' := h.separator_eq.resolve_left hequals
  have hsame : Attempt.ofEntry (key ++ ':' :: front) back = .ofEntry key value :=
    (hother front back hseparator hvalue hfront).symm.trans hload
  simp [Attempt.ofEntry, Store.ofEntry] at hsame

theorem divided_alike_undivided :
    (Loader.ofDefaults [] (fun _ => .ok []) UrlReader.ascii []).loadText
      (pairText "url".toList '=' "h:8?q=1".toList) =
        .ofEntry "url".toList "h:8?q=1".toList := by
  have h : IsPair "url".toList '=' "h:8?q=1".toList := by
    constructor <;> simp [Text.isBlankChar, Text.blankRuns]
  obtain ⟨-, -, hload, -⟩ := h.divided_alike_iff [] (fun _ => .ok []) UrlReader.ascii []
  exact hload.2 (.inl rfl)

/-- The line `a:b=c` sets the key `a:b`. -/
theorem divided_inside_value :
    IsPair ['a'] ':' "b=c".toList ∧
      let loaded := (Loader.ofDefaults [] (fun _ => .ok []) UrlReader.ascii []).loadText
        (pairText ['a'] ':' "b=c".toList)
      loaded = .ofEntry "a:b".toList ['c'] ∧ loaded ≠ .ofEntry ['a'] "b=c".toList := by
  have hload : (Loader.ofDefaults [] (fun _ => .ok []) UrlReader.ascii []).loadText
      (pairText ['a'] ':' "b=c".toList) = .ofEntry "a:b".toList ['c'] := rfl
  refine ⟨by constructor <;> simp [Text.isBlankChar, Text.blankRuns], hload, fun hsame => ?_⟩
  rw [hload] at hsame
  simp [Attempt.ofEntry, Store.ofEntry] at hsame

end IsPair

end PropertyConfig
