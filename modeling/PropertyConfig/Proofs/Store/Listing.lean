import PropertyConfig.Proofs.Store.Operations
import PropertyConfig.Proofs.Text.Trimming

/-!
# Reading properties in a row

The text of a store is read entry by entry: a key up to its separator, its value up to the divider
or to the quote that closes it (`readPair_entryText`). What follows an entry is nothing, or a
divider with other entries, so all entries are read (`readPairs_behindText`). Setting them in an
empty store, the name last, gives the store again (`run_asListing`). Main statement:
`Reachable.putListing_text`.
-/

namespace PropertyConfig

/-- The entries of a store as a text of properties in a row says them. -/
def Store.asListing (s : Store) : Listing :=
  ⟨s.ownName?, s.entries.filter fun e => e.1 != nameKey⟩

namespace Listing

open Store (escape needsQuotes valueText entryText)

variable {p : Policy}

/-- A key that is read as it is written. -/
def IsLegible (p : Policy) (key : Text) : Prop := key ≠ [] ∧ ∀ c ∈ key, isKeyChar p c

/-- Nothing follows, or a divider. -/
def EndsHere (p : Policy) (t : Text) : Prop := ∀ c ∈ t.head?, c = p.divider

/-- The entries behind the first one, with a divider before each. -/
def behindText (p : Policy) (entries : List Entry) : Text :=
  entries.flatMap fun e => p.divider :: entryText p e

theorem behindText_cons (e : Entry) (rest : List Entry) :
    behindText p (e :: rest) = p.divider :: (entryText p e ++ behindText p rest) := rfl

theorem endsHere_behindText (entries : List Entry) : EndsHere p (behindText p entries) := by
  cases entries with
  | nil => simp [EndsHere, behindText]
  | cons e rest => simp [EndsHere, behindText_cons]

theorem text_cons {s : Store} {e : Entry} {rest : List Entry} (h : s.entries = e :: rest) :
    s.text = entryText s.policy e ++ behindText s.policy rest := by
  rw [Store.text, h]
  clear h
  induction rest generalizing e with
  | nil => exact (List.append_nil _).symm
  | cons d rest ih =>
    have hjoin : Text.join [s.policy.divider] ((e :: d :: rest).map (entryText s.policy)) =
        entryText s.policy e ++ [s.policy.divider] ++
          Text.join [s.policy.divider] ((d :: rest).map (entryText s.policy)) := rfl
    rw [hjoin, ih, behindText_cons, List.append_assoc, List.singleton_append]

theorem edits_true (l : Listing) :
    l.edits true = l.edits false ++ l.name.toList.map (.set nameKey) := by
  simp [edits]

/-! ## Characters -/

theorem isPlain_of_isKeyChar {c : Char} (h : isKeyChar p c) : isPlain p c :=
  (Bool.and_eq_true_iff.1 h).1

theorem not_blank_of_isPlain {c : Char} (h : isPlain p c) : Text.isBlankChar c = false := by
  simpa using (Bool.and_eq_true_iff.1 h).1

theorem not_isPlain_divider : isPlain p p.divider = false := by simp [isPlain, isDivider]

theorem skipBlanks_cons {c : Char} (h : Text.isBlankChar c = false) (t : Text) :
    skipBlanks p (c :: t) = c :: t := by
  rw [skipBlanks]
  split
  · rfl
  · exact List.dropWhile_cons_of_neg (by simp [h])

/-! ## Values -/

theorem needsQuotes_eq_false_iff {value : Text} :
    needsQuotes p value = false ↔ value ≠ [] ∧ ∀ c ∈ value, isPlain p c ∧ c ≠ '"' := by
  simp [needsQuotes, isPlain, isDivider, and_assoc]

/-- A text in quotes is read up to the quote that closes it. -/
theorem readQuoted_escape (value rest : Text) :
    readQuoted (escape value ++ '"' :: rest) = (value, rest) := by
  induction value with
  | nil => rfl
  | cons c value ih =>
    have hcons : escape (c :: value) =
        (if c = '\\' ∨ c = '"' then ['\\', c] else [c]) ++ escape value := List.flatMap_cons
    rw [hcons, List.append_assoc]
    by_cases hc : c = '\\' ∨ c = '"'
    · rw [if_pos hc, List.cons_append, List.singleton_append, readQuoted, ih]
    · rw [if_neg hc, List.singleton_append]
      rw [not_or] at hc
      rw [readQuoted, ih]
      · simpa using hc.2
      · intro d u hd
        exact absurd hd hc.1

/-- A plain text is read up to the divider that ends it. -/
theorem span_isPlain {t rest : Text} (ht : ∀ c ∈ t, isPlain p c) (hrest : EndsHere p rest) :
    ((t ++ rest).takeWhile (isPlain p), (t ++ rest).dropWhile (isPlain p)) = (t, rest) := by
  have hhead : ∀ d ∈ rest.head?, isPlain p d = false := fun d hd => by
    rw [hrest d hd, not_isPlain_divider]
  rw [Text.takeWhile_append_of_head ht hhead, Text.dropWhile_append_of_head ht hhead]

theorem readValue_of_head {t : Text} (h : t.head? ≠ some '"') :
    readValue p t = (t.takeWhile (isPlain p), t.dropWhile (isPlain p)) := by
  unfold readValue
  split
  · exact absurd rfl h
  · rfl

/-- A value is read as it was before it was written. -/
theorem readValue_valueText {rest : Text} (hrest : EndsHere p rest) (value : Text) :
    readValue p (valueText p value ++ rest) = (value, rest) := by
  rw [valueText]
  cases hquotes : needsQuotes p value with
  | true =>
    rw [if_pos rfl, List.append_assoc, List.cons_append, readValue]
    exact readQuoted_escape value rest
  | false =>
    obtain ⟨hne, hplain⟩ := needsQuotes_eq_false_iff.1 hquotes
    obtain ⟨c, t, rfl⟩ := List.exists_cons_of_ne_nil hne
    have hquote : c ≠ '"' := (hplain c List.mem_cons_self).2
    rw [if_neg Bool.false_ne_true, readValue_of_head (by simpa using hquote)]
    exact span_isPlain (fun c hc => (hplain c hc).1) hrest

/-- A value is written without blanks at its ends, and never as nothing. -/
theorem bare_valueText (p : Policy) (value : Text) :
    valueText p value ≠ [] ∧ Text.startsBare (valueText p value) ∧
      Text.endsBare (valueText p value) := by
  have hquote : Text.isBlankChar '"' = false := by decide
  rw [valueText]
  cases hquotes : needsQuotes p value with
  | true =>
    rw [if_pos rfl, Text.startsBare, Text.endsBare, List.getLast?_concat]
    simp [hquote]
  | false =>
    obtain ⟨hne, hplain⟩ := needsQuotes_eq_false_iff.1 hquotes
    have hbare : ∀ c ∈ value, Text.isBlankChar c = false := fun c hc =>
      not_blank_of_isPlain (hplain c hc).1
    rw [if_neg Bool.false_ne_true, Text.startsBare, Text.endsBare, Option.all_eq_true,
      Option.all_eq_true]
    refine ⟨hne, fun c hc => ?_, fun c hc => ?_⟩
    · simpa using hbare c (List.mem_of_mem_head? hc)
    · simpa using hbare c (List.mem_of_getLast? hc)

/-! ## Entries -/

theorem exists_entryText {e : Entry} (hkey : IsLegible p e.1) :
    ∃ c t, entryText p e = c :: t ∧ isKeyChar p c := by
  obtain ⟨hne, hchars⟩ := hkey
  obtain ⟨c, t, hct⟩ := List.exists_cons_of_ne_nil hne
  rw [entryText, hct]
  exact ⟨c, _, rfl, hchars c (hct ▸ List.mem_cons_self)⟩

/-- The equation of `readPairs` without the evidence by which its recursion ends, which would stand
in the way of rewriting. -/
theorem readPairs_eq (p : Policy) (t : Text) :
    readPairs p t =
      match t.dropWhile fun c => !isPlain p c with
      | [] => []
      | c :: rest =>
        (if (readPair p (c :: rest)).1.1 = [] then [] else [(readPair p (c :: rest)).1]) ++
          readPairs p ((readPair p (c :: rest)).2.dropWhile fun c => !isDivider p c) := by
  rw [readPairs.eq_def]
  split <;> rename_i h <;> rw [h]

theorem readPairs_nil : readPairs p [] = [] := readPairs_eq p []

theorem readPairs_divider (t : Text) : readPairs p (p.divider :: t) = readPairs p t := by
  rw [readPairs_eq, readPairs_eq p t,
    List.dropWhile_cons_of_pos (by simp [not_isPlain_divider])]

theorem readPairs_cons {c : Char} (hc : isPlain p c) (t : Text) :
    readPairs p (c :: t) =
      (if (readPair p (c :: t)).1.1 = [] then [] else [(readPair p (c :: t)).1]) ++
        readPairs p ((readPair p (c :: t)).2.dropWhile fun c => !isDivider p c) := by
  rw [readPairs_eq, List.dropWhile_cons_of_neg (by simp [hc])]

/-- Where nothing is to be skipped, a value stands directly behind a separator. -/
theorem readAssigned_separator {c : Char} (hc : isSeparator p c)
    (hbare : Text.isBlankChar c = false) {t : Text} (ht : skipBlanks p t = t) :
    readAssigned p (c :: t) = readValue p t := by
  rw [readAssigned, skipBlanks_cons hbare]
  simp only [hc, if_true, ht]

/-- A key is read up to the separator behind it. -/
theorem readPair_append {key : Text} (hkey : ∀ c ∈ key, isKeyChar p c) {c : Char}
    (hc : isSeparator p c) (hbare : Text.isBlankChar c = false) {t : Text}
    (ht : skipBlanks p t = t) :
    readPair p (key ++ c :: t) = ((key, (readValue p t).1), (readValue p t).2) := by
  have hnot : isKeyChar p c = false := by simp [isKeyChar, hc]
  rw [readPair, List.takeWhile_append_of_pos hkey, List.dropWhile_append_of_pos hkey,
    List.takeWhile_cons_of_neg (by simp [hnot]), List.dropWhile_cons_of_neg (by simp [hnot]),
    readAssigned_separator hc hbare ht, List.append_nil]

/-- A property that ends where it should is followed by the next one. -/
theorem readPairs_of_readPair {t rest : Text} {e : Entry} (h : readPair p t = (e, rest))
    (hkey : e.1 ≠ []) (ht : ∃ c u, t = c :: u ∧ isPlain p c) (hrest : EndsHere p rest) :
    readPairs p t = e :: readPairs p rest := by
  obtain ⟨c, u, rfl, hc⟩ := ht
  have hdrop : rest.dropWhile (fun c => !isDivider p c) = rest := by
    cases rest with
    | nil => rfl
    | cons d rest => exact List.dropWhile_cons_of_neg (by simp [isDivider, hrest d rfl])
  rw [readPairs_cons hc, h, if_neg hkey, List.singleton_append, hdrop]

section Entries

variable (hmem : p.separator ∈ p.separators) (hbare : Text.isBlankChar p.separator = false)

include hmem hbare

/-- An entry is read as it was before it was written. -/
theorem readPair_entryText {e : Entry} (hkey : IsLegible p e.1) {rest : Text}
    (hrest : EndsHere p rest) : readPair p (entryText p e ++ rest) = (e, rest) := by
  have htext : entryText p e ++ rest = e.1 ++ p.separator :: (valueText p e.2 ++ rest) := by
    simp [entryText]
  have hskip : skipBlanks p (valueText p e.2 ++ rest) = valueText p e.2 ++ rest := by
    obtain ⟨hne, hstart, -⟩ := bare_valueText p e.2
    obtain ⟨c, t, hct⟩ := List.exists_cons_of_ne_nil hne
    rw [hct, List.cons_append, skipBlanks_cons]
    simpa [hct, Text.startsBare] using hstart
  rw [htext, readPair_append hkey.2 (List.contains_iff_mem.2 hmem) hbare hskip,
    readValue_valueText hrest]

theorem readPairs_entryText {e : Entry} (hkey : IsLegible p e.1) {rest : Text}
    (hrest : EndsHere p rest) : readPairs p (entryText p e ++ rest) = e :: readPairs p rest := by
  obtain ⟨c, t, htext, hc⟩ := exists_entryText hkey
  refine readPairs_of_readPair (readPair_entryText hmem hbare hkey hrest) hkey.1 ?_ hrest
  exact ⟨c, t ++ rest, by rw [htext, List.cons_append], isPlain_of_isKeyChar hc⟩

theorem readPairs_behindText {entries : List Entry} (hkeys : ∀ e ∈ entries, IsLegible p e.1) :
    readPairs p (behindText p entries) = entries := by
  induction entries with
  | nil => exact readPairs_nil
  | cons e rest ih =>
    -- the divider in front of an entry belongs to nothing
    obtain ⟨hkey, hkeys⟩ := List.forall_mem_cons.1 hkeys
    rw [behindText_cons, readPairs_divider,
      readPairs_entryText hmem hbare hkey (endsHere_behindText rest), ih hkeys]

end Entries

/-! ## Whole texts -/

theorem splitName_eq {t : Text} (h : t.head? ≠ some '[') : splitName t = (none, t) := by
  unfold splitName
  split
  · exact absurd rfl h
  · rfl

theorem endsBare_entryText (e : Entry) : Text.endsBare (entryText p e) := by
  obtain ⟨hne, -, hend⟩ := bare_valueText p e.2
  exact Text.endsBare_append (List.cons_ne_nil _ _)
    (Text.endsBare_append hne hend [p.separator]) e.1

theorem endsBare_text (e : Entry) (rest : List Entry) :
    Text.endsBare (entryText p e ++ behindText p rest) := by
  induction rest generalizing e with
  | nil =>
    rw [show behindText p [] = [] from rfl, List.append_nil]
    exact endsBare_entryText e
  | cons d rest ih =>
    have hne : entryText p d ++ behindText p rest ≠ [] := by simp [entryText]
    rw [behindText_cons, ← List.singleton_append, ← List.append_assoc]
    exact Text.endsBare_append hne (ih d) _

theorem read_of_trimmed {t : Text} (htrim : Text.trim t = t) (hhead : t.head? ≠ some '[') :
    read p t =
      ⟨(readPairs p t).lookup nameKey, (readPairs p t).filter fun e => e.1 != nameKey⟩ := by
  rw [read, htrim, splitName_eq hhead]
  simp only [htrim, Option.none_or]

/-- The text of a store is read as what the store has. -/
theorem read_text {s : Store} (hmem : s.policy.separator ∈ s.policy.separators)
    (hbare : Text.isBlankChar s.policy.separator = false)
    (hkeys : ∀ e ∈ s.entries, IsLegible s.policy e.1)
    (hfirst : ∀ e ∈ s.entries.head?, e.1.head? ≠ some '[') :
    read s.policy s.text = s.asListing := by
  cases hentries : s.entries with
  | nil =>
    have htext : s.text = [] := by rw [Store.text, hentries]; rfl
    rw [htext, read_of_trimmed rfl (by simp), readPairs_nil, Store.asListing, Store.ownName?,
      hentries]
  | cons e rest =>
    rw [hentries] at hkeys hfirst
    obtain ⟨hkey, hrest⟩ := List.forall_mem_cons.1 hkeys
    obtain ⟨c, t, htext, hc⟩ := exists_entryText hkey
    have hpairs : readPairs s.policy s.text = s.entries := by
      rw [text_cons hentries, readPairs_entryText hmem hbare hkey (endsHere_behindText rest),
        readPairs_behindText hmem hbare hrest, hentries]
    have htrim : Text.trim s.text = s.text := by
      rw [Text.trim_eq_self_iff, text_cons hentries]
      refine ⟨?_, endsBare_text e rest⟩
      simp [htext, Text.startsBare, not_blank_of_isPlain (isPlain_of_isKeyChar hc)]
    have hhead : s.text.head? ≠ some '[' := by
      have hsame : s.text.head? = e.1.head? := by
        rw [text_cons hentries, entryText, List.append_assoc, List.head?_append_of_ne_nil _ hkey.1]
      rw [hsame]
      exact hfirst e rfl
    rw [read_of_trimmed htrim hhead, hpairs, Store.asListing, Store.ownName?]

end Listing

/-- However the separators are set, there are some. -/
theorem Policy.separators_withSeparators (p : Policy) (separators : List Char) :
    (p.withSeparators separators).separators ≠ [] := by
  by_cases h : separators = [] <;> simp [Policy.withSeparators, h]

namespace Store

variable {s : Store}

theorem assign_nameKey_of_new (h : s.Distinct)
    (hnew : ∀ e ∈ s.entries, s.policy.fold e.1 ≠ s.policy.fold nameKey) (value : Text) :
    s.assign nameKey value = { s with entries := (nameKey, value) :: s.entries } := by
  have hnone : s.policy.position? s.keys nameKey = none := by
    rw [keys, Policy.position?_eq h, List.findIdx?_eq_none_iff]
    simpa using hnew
  rw [assign, hnone]
  rfl

/-- The name stands in front of the other entries. -/
theorem entries_of_nameFirst (h : s.NameFirst) :
    s.entries = (s.ownName?.toList.map fun name => (nameKey, name)) ++ s.asListing.pairs := by
  rw [NameFirst, keys] at h
  rw [asListing, ownName?]
  cases hentries : s.entries with
  | nil => rfl
  | cons e rest =>
    obtain ⟨key, value⟩ := e
    rw [hentries, List.map_cons, List.tail_cons] at h
    have hrest : ∀ d ∈ rest, d.1 ≠ nameKey := fun d hd heq =>
      h (heq ▸ List.mem_map_of_mem hd)
    have hfilter : rest.filter (fun d => d.1 != nameKey) = rest :=
      List.filter_eq_self.2 fun d hd => by simpa using hrest d hd
    by_cases hkey : key = nameKey
    · simp [hkey, hfilter]
    · have hnone : rest.lookup nameKey = none := by
        rw [List.lookup_eq_none_iff]
        exact fun d hd => by simpa using (hrest d hd).symm
      have hbeq : (nameKey == key) = false := by simpa using Ne.symm hkey
      simp [hkey, hfilter, hnone, List.lookup_cons, hbeq]

/-- Setting the entries other than the name leaves them as they stand. -/
theorem run_unnamed (h : s.Distinct)
    (hset : ∀ e ∈ s.entries, s.policy.action (.set e.1 e.2) = .assign e.1 e.2) :
    s.emptied.run (s.asListing.edits false) = { s with entries := s.asListing.pairs } := by
  have hpairs : s.asListing.pairs.Sublist s.entries := List.filter_sublist
  have hempty : s.emptied.Distinct := List.nodup_nil
  have hdistinct : s.policy.Distinct s.asListing.pairs := h.sublist (hpairs.map _)
  rw [Listing.edits, if_neg Bool.false_ne_true, List.append_nil, run_of_assigned hempty]
  · exact congrArg _ (Policy.overlay_of_distinct hdistinct)
  · intro e he
    exact ⟨hset e (hpairs.subset he), by simpa using (List.mem_filter.1 he).2⟩

/-- Setting in an empty store what a listing of a store says gives the store again. -/
theorem run_asListing (h : s.Distinct) (hfirst : s.NameFirst)
    (hset : ∀ e ∈ s.entries, s.policy.action (.set e.1 e.2) = .assign e.1 e.2) :
    s.emptied.run (s.asListing.edits true) = s := by
  have hentries := entries_of_nameFirst hfirst
  rw [Listing.edits_true, run_append, run_unnamed h hset]
  show Store.run _ (s.ownName?.toList.map (.set nameKey)) = s
  cases hname : s.ownName? with
  | none =>
    rw [hname] at hentries
    exact congrArg _ hentries.symm
  | some name =>
    rw [hname] at hentries
    have hentries : s.entries = (nameKey, name) :: s.asListing.pairs := hentries
    rw [Distinct, hentries, Policy.distinct_cons] at h
    have haction := hset (nameKey, name) (hentries ▸ List.mem_cons_self)
    have hassign : { s with entries := s.asListing.pairs }.run [.set nameKey name] =
        { s with entries := s.asListing.pairs }.assign nameKey name := by
      rw [run, List.foldl_cons, List.foldl_nil, apply, haction]
    have hnew := assign_nameKey_of_new (s := { s with entries := s.asListing.pairs }) h.2 h.1 name
    rw [Option.toList_some, List.map_singleton, hassign, hnew]
    exact congrArg _ hentries.symm

/-- **Reading properties undoes writing them.** Let the entries of a store be as its policy has
them, its keys legible, and its first key without a bracket in front. Then putting the text of the
store into an empty one of the same policy gives the store again, whatever the values are. Nothing
else is asked of the policy than what setting separators grants (`Policy.separators_withSeparators`)
and that no blank separates keys from values. -/
theorem Reachable.putListing_text (h : s.Reachable (·.separators ≠ []))
    (hbare : Text.isBlankChar s.policy.separator = false) (hdistinct : s.Distinct)
    (hblank : s.policy.allowBlank = true ∨ ∀ e ∈ s.entries, Text.isBlank e.2 = false)
    (hkeys : ∀ key ∈ s.keys, ∀ c ∈ key, Listing.isKeyChar s.policy c)
    (hfirst : ∀ key ∈ s.keys.head?, key.head? ≠ some '[') :
    s.emptied.perform (.putListing s.text true) = s := by
  have hmem : s.policy.separator ∈ s.policy.separators := by
    obtain ⟨c, rest, hcons⟩ := List.exists_cons_of_ne_nil h.policy_allowed
    rw [Policy.separator, hcons]
    exact List.mem_cons_self
  have hlegible : ∀ e ∈ s.entries, Listing.IsLegible s.policy e.1 := by
    intro e he
    have hkey : e.1 ∈ s.keys := List.mem_map_of_mem he
    obtain ⟨c, rest, hcons, -⟩ := h.wellKeyed e.1 hkey
    exact ⟨hcons ▸ List.cons_ne_nil _ _, hkeys e.1 hkey⟩
  have hhead : ∀ e ∈ s.entries.head?, e.1.head? ≠ some '[' := by
    intro e he
    refine hfirst e.1 ?_
    rw [keys, List.head?_map, he]
    rfl
  have hset : ∀ e ∈ s.entries, s.policy.action (.set e.1 e.2) = .assign e.1 e.2 := by
    intro e he
    obtain ⟨c, rest, hcons, hmarker⟩ := h.wellKeyed e.1 (List.mem_map_of_mem he)
    rw [hcons]
    rcases hblank with hblank | hblank
    · simp [Policy.action, hmarker, hblank]
    · simp [Policy.action, hmarker, hblank e he]
  have hread : Listing.read s.emptied.policy s.text = s.asListing :=
    Listing.read_text hmem hbare hlegible hhead
  rw [Store.perform, Operation.edits, hread]
  exact run_asListing hdistinct h.nameFirst hset

/-- A store with a name, and with values that cannot stand without quotes. -/
def quoting : Store :=
  (((({} : Store).perform (.set ['k'] "a \\\"".toList)).perform (.set ['l'] [])).perform
    (.set ['m'] "=\n".toList)).perform (.set nameKey "xy".toList)

theorem putListing_text_quoting :
    quoting.text = "%name=xy k=\"a \\\\\\\"\" l=\"\" m=\"=\n\"".toList ∧
      quoting.emptied.perform (.putListing quoting.text true) = quoting := by
  have hreachable : quoting.Reachable (·.separators ≠ []) :=
    .perform _ (.perform _ (.perform _ (.perform _ (.empty (by decide)))))
  have hdistinct : quoting.Distinct := by
    rw [Distinct, Policy.Distinct]
    decide
  have hkeys : quoting.keys.all (·.all (Listing.isKeyChar quoting.policy)) = true := by decide
  have hlegible : ∀ key ∈ quoting.keys, ∀ c ∈ key, Listing.isKeyChar quoting.policy c :=
    fun key hkey => List.all_eq_true.1 (List.all_eq_true.1 hkeys key hkey)
  exact ⟨by decide,
    hreachable.putListing_text (by decide) hdistinct (.inl rfl) hlegible (by decide)⟩

end Store

end PropertyConfig
