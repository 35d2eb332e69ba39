import PropertyConfig.Proofs.Store.Operations

/-!
# Keys that edits leave alone

An edit acts on one key at most (`Policy.editedKey?`). The entries that another key could stand for
stay as they are, and in their order (`Store.entriesOf_apply`), and which one of them the key stands
for depends on nothing else (`Store.entry?_eq`). So it keeps its value
(`Store.get?_run_of_untouched`), also behind a merge that copies other keys only
(`Store.get?_merge_of_untouched`). Nothing is asked of the store: its keys need not be distinct, as
they are not where letter case has counted before and does not count any more.
-/

namespace PropertyConfig

/-! ## Entries that are left out -/

section

variable {α : Type} {keep : α → Bool} {l : List α} {i : Nat}

theorem filter_eraseIdx (h : ∀ a, l[i]? = some a → keep a = false) :
    (l.eraseIdx i).filter keep = l.filter keep := by
  induction l generalizing i with
  | nil => rfl
  | cons b l ih =>
    cases i with
    | zero => rw [List.eraseIdx_zero, List.tail_cons, List.filter_cons_of_neg (by simp [h b rfl])]
    | succ i =>
      rw [List.eraseIdx_cons_succ, List.filter_cons, List.filter_cons, ih fun a ha => h a ha]

/-- Moving what is left out does not show in what is kept. -/
theorem filter_front (h : ∀ a, l[i]? = some a → keep a = false) :
    (l[i]?.toList ++ l.eraseIdx i).filter keep = l.filter keep := by
  have hfront : l[i]?.toList.filter keep = [] := by
    rw [List.filter_eq_nil_iff]
    intro a ha
    simp [h a (Option.mem_toList.1 ha)]
  rw [List.filter_append, hfront, List.nil_append, filter_eraseIdx h]

theorem filter_modify {f : α → α}
    (h : ∀ a, l[i]? = some a → keep a = false ∧ keep (f a) = false) :
    (l.modify i f).filter keep = l.filter keep := by
  induction l generalizing i with
  | nil => rw [List.modify_nil]
  | cons b l ih =>
    cases i with
    | zero =>
      obtain ⟨hb, hf⟩ := h b rfl
      rw [List.modify_zero_cons, List.filter_cons_of_neg (by simp [hf]),
        List.filter_cons_of_neg (by simp [hb])]
    | succ i =>
      rw [List.modify_succ_cons, List.filter_cons, List.filter_cons, ih fun a ha => h a ha]

end

/-! ## The entries that a key could stand for -/

namespace Policy

variable {p : Policy}

/-- The key that an edit acts on. -/
def editedKey? (p : Policy) (e : Edit) : Option Text :=
  match p.action e with
  | .nothing => none
  | .assign key _ => some key
  | .erase key => some key

theorem editedKey?_set {c : Char} (hmarker : isRemovalMarker c = false) (rest value : Text) :
    p.editedKey? (.set (c :: rest) value) = some (c :: rest) := by
  cases hvalue : !p.allowBlank && Text.isBlank value <;>
    simp [editedKey?, action, hmarker, hvalue]

/-- What is found in the place of a key is the same key. -/
theorem sameKey_of_position? {keys : List Text} {key : Text} {i : Nat}
    (h : p.position? keys key = some i) {found : Text} (hfound : keys[i]? = some found) :
    p.sameKey found key := by
  rw [position?, Option.or_eq_some_iff] at h
  rcases h with hspelled | ⟨-, hletters⟩
  · obtain ⟨hlt, hkey, -⟩ := List.findIdx?_eq_some_iff_getElem.1 hspelled
    rw [List.getElem?_eq_getElem hlt, Option.some.injEq] at hfound
    rw [sameKey_iff, ← hfound, beq_iff_eq.1 hkey]
  · split at hletters
    · rename_i hcase
      obtain ⟨hlt, hkey, -⟩ := List.findIdx?_eq_some_iff_getElem.1 hletters
      rw [List.getElem?_eq_getElem hlt, Option.some.injEq] at hfound
      rw [sameKey, if_pos hcase, ← hfound]
      exact hkey
    · cases hletters

end Policy

namespace Store

variable {s : Store} {key other : Text}

/-- The entries whose keys are the same key. -/
def entriesOf (s : Store) (key : Text) : List Entry :=
  s.entries.filter fun e => s.policy.sameKey e.1 key

/-- A key stands for the entry that is spelled alike, or for the first one of the same key. -/
theorem entry?_eq (s : Store) (key : Text) :
    s.entry? key = ((s.entriesOf key).find? (·.1 == key)).or (s.entriesOf key).head? := by
  have hspelled : (s.entriesOf key).find? (·.1 == key) = s.entries.find? (·.1 == key) := by
    rw [entriesOf, List.find?_filter]
    congr 1
    funext e
    by_cases hkey : e.1 = key
    · simp [hkey, Policy.sameKey_iff]
    · simp [hkey]
  have hfound (q : Entry → Bool) :
      s.entries.find? q = (s.entries.findIdx? q).bind (s.entries[·]?) :=
    List.find?_eq_bind_findIdx?_getElem?
  rw [hspelled, entriesOf, List.head?_filter, hfound, entry?, Policy.position?, keys,
    List.findIdx?_map]
  cases hi : s.entries.findIdx? fun e => e.1 == key with
  | some i =>
    obtain ⟨hlt, -⟩ := List.findIdx?_eq_some_iff_getElem.1 hi
    have hi : s.entries.findIdx? ((· == key) ∘ Prod.fst) = some i := hi
    simp [hi, List.getElem?_eq_getElem hlt]
  | none =>
    have hspelled : ∀ e ∈ s.entries, (e.1 == key) = false := List.findIdx?_eq_none_iff.1 hi
    have hi : s.entries.findIdx? ((· == key) ∘ Prod.fst) = none := hi
    rw [hi, Option.none_or, Option.bind_none, Option.none_or, hfound, List.findIdx?_map]
    by_cases hcase : s.policy.ignoreCase = true
    · have hsame : (fun e : Entry => s.policy.sameKey e.1 key) =
          (Text.sameLetters · key) ∘ Prod.fst := by
        funext e
        exact if_pos hcase
      rw [if_pos hcase, hsame]
    · have hsame : s.entries.findIdx? (fun e => s.policy.sameKey e.1 key) = none := by
        rw [List.findIdx?_eq_none_iff]
        intro e he
        rw [Policy.sameKey, if_neg hcase]
        exact hspelled e he
      rw [if_neg hcase, hsame]

theorem get?_congr_of_entriesOf {s' : Store} (h : s'.entriesOf key = s.entriesOf key) :
    s'.get? key = s.get? key := by
  rw [get?, get?, entry?_eq, entry?_eq, h]

/-- Where a key is found, no entry of another key stands. -/
theorem not_sameKey_of_position? (h : s.policy.sameKey key other = false) {i : Nat}
    (hi : s.policy.position? s.keys key = some i) {e : Entry} (he : s.entries[i]? = some e) :
    s.policy.sameKey e.1 other = false := by
  have hkey : s.keys[i]? = some e.1 := by rw [keys, List.getElem?_map, he, Option.map_some]
  have hsame := Policy.sameKey_iff.1 (Policy.sameKey_of_position? hi hkey)
  rw [Policy.sameKey_eq_false_iff] at h ⊢
  rwa [hsame]

theorem entriesOf_assign (h : s.policy.sameKey key other = false) (value : Text) :
    (s.assign key value).entriesOf other = s.entriesOf other := by
  let keep : Entry → Bool := fun e => s.policy.sameKey e.1 other
  have hnew : keep (key, value) = false := h
  have hentries : (s.assign key value).entries.filter keep = s.entries.filter keep := by
    unfold assign
    cases hi : s.policy.position? s.keys key with
    | none =>
      by_cases hname : key = nameKey
      · simp only [hname, if_true]
        rw [List.filter_cons_of_neg (by simpa [hname] using hnew)]
      · simp [hname, hnew]
    | some i =>
      have hat (e : Entry) (he : s.entries[i]? = some e) : keep e = false :=
        not_sameKey_of_position? h hi he
      have hmodify : (s.entries.modify i fun e => (e.1, value)).filter keep =
          s.entries.filter keep :=
        filter_modify fun e he => ⟨hat e he, hat e he⟩
      by_cases hname : key = nameKey
      · simp only [hname, if_true, toFront]
        refine (filter_front fun e he => ?_).trans hmodify
        rw [List.getElem?_modify_eq, Option.map_eq_map, Option.map_eq_some_iff] at he
        obtain ⟨d, hd, rfl⟩ := he
        exact hat d hd
      · simpa only [hname, if_false] using hmodify
  exact hentries

theorem entriesOf_erase (h : s.policy.sameKey key other = false) :
    (s.erase key).entriesOf other = s.entriesOf other := by
  unfold erase
  cases hi : s.policy.position? s.keys key with
  | none => rfl
  | some i => exact filter_eraseIdx fun e he => not_sameKey_of_position? h hi he

/-! ## Edits -/

theorem entriesOf_apply {e : Edit}
    (h : ∀ k ∈ s.policy.editedKey? e, s.policy.sameKey k other = false) :
    (s.apply e).entriesOf other = s.entriesOf other := by
  unfold Policy.editedKey? at h
  unfold apply
  cases haction : s.policy.action e with
  | nothing => rfl
  | assign key value => exact entriesOf_assign (h key (by rw [haction]; rfl)) value
  | erase key => exact entriesOf_erase (h key (by rw [haction]; rfl))

theorem entriesOf_run {edits : List Edit}
    (h : ∀ e ∈ edits, ∀ k ∈ s.policy.editedKey? e, s.policy.sameKey k other = false) :
    (s.run edits).entriesOf other = s.entriesOf other := by
  induction edits generalizing s with
  | nil => rfl
  | cons e edits ih =>
    obtain ⟨he, hedits⟩ := List.forall_mem_cons.1 h
    have ih := ih (s := s.apply e) (by rwa [policy_apply])
    exact ih.trans (entriesOf_apply he)

theorem get?_apply_of_untouched {e : Edit}
    (h : ∀ k ∈ s.policy.editedKey? e, s.policy.sameKey k other = false) :
    (s.apply e).get? other = s.get? other :=
  get?_congr_of_entriesOf (entriesOf_apply h)

/-- A key that no edit acts on keeps its value. -/
theorem get?_run_of_untouched {edits : List Edit}
    (h : ∀ e ∈ edits, ∀ k ∈ s.policy.editedKey? e, s.policy.sameKey k other = false) :
    (s.run edits).get? other = s.get? other :=
  get?_congr_of_entriesOf (entriesOf_run h)

theorem get?_remove_of_untouched (h : s.policy.sameKey key other = false) :
    (s.remove key).get? other = s.get? other :=
  get?_congr_of_entriesOf (entriesOf_erase h)

/-- A key that a merge does not copy keeps its value. -/
theorem get?_merge_of_untouched {copied : Store} (hcopied : copied.WellKeyed) {withName : Bool}
    (h : ∀ k ∈ copied.keys, withName = true ∨ k ≠ nameKey → s.policy.sameKey k other = false) :
    (s.merge copied withName).store.get? other = s.get? other := by
  refine get?_run_of_untouched fun edit hedit k hk => ?_
  obtain ⟨e, he, rfl⟩ := List.mem_map.1 hedit
  obtain ⟨hmem, hname⟩ := List.mem_filter.1 he
  have hkey : e.1 ∈ copied.keys := List.mem_map_of_mem hmem
  obtain ⟨c, rest, hcons, hmarker⟩ := hcopied e.1 hkey
  obtain rfl : e.1 = k := by
    have hedited := Policy.editedKey?_set (p := s.policy) hmarker rest e.2
    rw [← hcons] at hedited
    exact Option.some.inj (hedited.symm.trans hk)
  exact h e.1 hkey (by simpa using hname)

end Store

end PropertyConfig
