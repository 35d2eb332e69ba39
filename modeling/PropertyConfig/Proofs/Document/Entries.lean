import PropertyConfig.Proofs.Document.Leaves
import PropertyConfig.Proofs.Store.OrderedMap
import PropertyConfig.Proofs.Text.Trimming

/-!
# Documents of entries

Values come into a table one after the other. A value that goes to where a table is, is dropped,
and a value on the way of another one makes room for a table. Still it does not matter in which
order they come: a value is in the table in the end exactly if the path of no other one goes on
where its own path ends (`mem_leaves_ofPaths`). So stores with the same entries have the same
document (`document_eq_of_perm`). Main statement: `document_order_free`.
-/

namespace PropertyConfig

/-- A path goes on where another one ends. -/
def GoesBeyond (longer path : List Text) : Prop := path <+: longer ∧ path ≠ longer

instance (longer path : List Text) : Decidable (GoesBeyond longer path) :=
  inferInstanceAs (Decidable (_ ∧ _))

theorem goesBeyond_nil_iff {path : List Text} : GoesBeyond path [] ↔ path ≠ [] := by
  simp [GoesBeyond, eq_comm]

theorem not_goesBeyond_nil {path : List Text} : ¬ GoesBeyond [] path := by
  rintro ⟨hlead, hne⟩
  exact hne (List.prefix_nil.1 hlead)

theorem goesBeyond_cons_iff {key : Text} {longer path : List Text} :
    GoesBeyond (key :: longer) (key :: path) ↔ GoesBeyond longer path := by
  simp [GoesBeyond]

namespace Table

variable {t : Table} {key : Text} {f : Option Tree → Tree} {path : List Text} {l : Leaf}

/-! ## Changing one place of a table -/

theorem lookup_cons_ne {e : Text × Tree} (h : e.1 ≠ key) :
    List.lookup key (e :: t) = t.lookup key := by
  rw [List.lookup_cons, beq_false_of_ne (Ne.symm h)]

theorem lookup_eq_none : t.lookup key = none ↔ ∀ e ∈ t, e.1 ≠ key := by
  simp only [List.lookup_eq_none_iff, bne_iff_ne, ne_comm]

theorem mem_of_lookup {tree : Tree} (h : t.lookup key = some tree) : (key, tree) ∈ t := by
  obtain ⟨before, after, rfl, -⟩ := List.lookup_eq_some_iff.1 h
  exact List.mem_append_right _ List.mem_cons_self

/-- A sorted table is changed at the key only. -/
theorem mem_alter (h : t.Sorted) {e : Text × Tree} :
    e ∈ alter key f t ↔ e = (key, f (t.lookup key)) ∨ (e ∈ t ∧ e.1 ≠ key) := by
  induction t with
  | nil => simp [alter]
  | cons d t ih =>
    obtain ⟨hbehind, hsorted⟩ := List.pairwise_cons.1 h
    rw [alter]
    split
    · next heq =>
      have hother : e ∈ t → e.1 ≠ key := fun he => heq ▸ (Std.ne_of_lt (hbehind e he)).symm
      subst heq
      have hlookup : List.lookup d.1 (d :: t) = some d.2 := List.lookup_cons_self
      rw [hlookup, List.mem_cons, List.mem_cons]
      constructor
      · rintro (rfl | he)
        · exact .inl rfl
        · exact .inr ⟨.inr he, hother he⟩
      · rintro (rfl | ⟨rfl | he, hne⟩)
        · exact .inl rfl
        · exact absurd rfl hne
        · exact .inr he
    · next hne =>
      split
      · next hlt =>
        -- all keys are behind the new one
        have hother : ∀ e ∈ d :: t, e.1 ≠ key := by
          intro e he
          rcases List.mem_cons.1 he with rfl | he
          · exact Ne.symm hne
          · exact (Std.ne_of_lt (List.lt_trans hlt (hbehind e he))).symm
        rw [lookup_eq_none.2 hother, List.mem_cons]
        constructor
        · rintro (rfl | he)
          · exact .inl rfl
          · exact .inr ⟨he, hother e he⟩
        · rintro (rfl | ⟨he, -⟩)
          · exact .inl rfl
          · exact .inr he
      · rw [lookup_cons_ne (Ne.symm hne), List.mem_cons, ih hsorted, List.mem_cons]
        constructor
        · rintro (rfl | rfl | ⟨he, hkey⟩)
          · exact .inr ⟨.inl rfl, Ne.symm hne⟩
          · exact .inl rfl
          · exact .inr ⟨.inr he, hkey⟩
        · rintro (rfl | ⟨rfl | he, hkey⟩)
          · exact .inr (.inl rfl)
          · exact .inl rfl
          · exact .inr (.inr ⟨he, hkey⟩)

theorem sorted_alter (h : t.Sorted) : (alter key f t).Sorted := by
  induction t with
  | nil => exact List.pairwise_singleton _ _
  | cons d t ih =>
    obtain ⟨hbehind, hsorted⟩ := List.pairwise_cons.1 h
    rw [alter]
    split
    · exact List.pairwise_cons.2 ⟨hbehind, hsorted⟩
    · next hne =>
      split
      · next hlt =>
        refine List.pairwise_cons.2 ⟨fun e he => ?_, h⟩
        rcases List.mem_cons.1 he with rfl | he
        · exact hlt
        · exact List.lt_trans hlt (hbehind e he)
      · next hnot =>
        have hlt : d.1 < key := by
          by_contra hle
          exact hne (Std.Trichotomous.trichotomous _ _ hnot hle)
        refine List.pairwise_cons.2 ⟨fun e he => ?_, ih hsorted⟩
        rcases (mem_alter hsorted).1 he with rfl | ⟨he, -⟩
        · exact hlt
        · exact hbehind e he

theorem alter_ne_nil (h : t.Sorted) : alter key f t ≠ [] :=
  List.ne_nil_of_mem ((mem_alter h).2 (.inl rfl))

/-! ## Putting in one value -/

/-- The tree that a place has when a value is put in below it. -/
def put (l : Leaf) : (path : List Text) → Option Tree → Tree
  | [] => leafOr l
  | key :: rest => fun old => .table (alter key (put l rest) (entriesOf old))

theorem insert_cons (l : Leaf) (key : Text) (rest : List Text) (t : Table) :
    insert l (key :: rest) t = alter key (put l rest) t := by
  induction rest generalizing key t with
  | nil => rfl
  | cons next rest ih =>
    rw [insert]
    · simp only [ih]
      rfl
    · exact List.cons_ne_nil _ _

/-- What is at a place, if something is there, is in order. -/
def PlaceOrdered (old : Option Tree) : Prop := ∀ tree, old = some tree → tree.Ordered

theorem PlaceOrdered.entriesOf {old : Option Tree} (h : PlaceOrdered old) :
    (entriesOf old).Ordered := by
  match old with
  | none => exact ⟨List.Pairwise.nil, fun _ he => nomatch he⟩
  | some (.leaf l) => exact ⟨List.Pairwise.nil, fun _ he => nomatch he⟩
  | some (.table entries) =>
    cases h _ rfl with
    | table _ hsorted hbelow => exact ⟨hsorted, hbelow⟩

theorem Ordered.lookup (h : t.Ordered) (key : Text) : PlaceOrdered (t.lookup key) :=
  fun _ htree => h.below _ (mem_of_lookup htree)

theorem Ordered.alter (h : t.Ordered) (hf : (f (t.lookup key)).Ordered) :
    (alter key f t).Ordered where
  sorted := sorted_alter h.sorted
  below e he := by
    rcases (mem_alter h.sorted).1 he with rfl | ⟨he, -⟩
    · exact hf
    · exact h.below e he

theorem ordered_put (l : Leaf) (path : List Text) {old : Option Tree} (h : PlaceOrdered old) :
    (put l path old).Ordered := by
  induction path generalizing old with
  | nil =>
    match old with
    | none => exact .leaf l
    | some (.leaf _) => exact .leaf l
    | some (.table _) => exact h _ rfl
  | cons key rest ih =>
    have haltered := h.entriesOf.alter (ih (h.entriesOf.lookup key))
    exact .table (alter_ne_nil h.entriesOf.sorted) haltered.sorted haltered.below

/-- The leaves at a place. -/
def leavesAt (old : Option Tree) : List (List Text × Leaf) := old.elim [] Tree.leaves

theorem mem_leavesAt_lookup (h : t.Sorted) :
    (path, l) ∈ leavesAt (t.lookup key) ↔ (key :: path, l) ∈ t.leaves := by
  cases hlookup : t.lookup key with
  | some tree => exact (h.mem_leaves_cons (mem_of_lookup hlookup)).symm
  | none =>
    simp only [leavesAt, Option.elim_none, List.not_mem_nil, false_iff]
    intro hleaf
    obtain ⟨e, he, y, -, heq⟩ := mem_leaves.1 hleaf
    exact lookup_eq_none.1 hlookup e he (List.cons.inj (Prod.mk.inj heq).1).1

/-- Below the key there are the leaves of the new tree, and elsewhere those that were there. -/
theorem mem_leaves_alter (h : t.Sorted) {first : Text} :
    (first :: path, l) ∈ (alter key f t).leaves ↔
      if first = key then (path, l) ∈ (f (t.lookup key)).leaves
      else (first :: path, l) ∈ t.leaves := by
  split
  · next heq =>
    subst heq
    exact (sorted_alter h).mem_leaves_cons ((mem_alter h).2 (.inl rfl))
  · next hne =>
    rw [mem_leaves, mem_leaves]
    constructor
    · rintro ⟨e, he, y, hy, heq⟩
      have hkey : e.1 = first := (List.cons.inj (Prod.mk.inj heq).1).1
      rcases (mem_alter h).1 he with rfl | ⟨he, -⟩
      · exact absurd hkey.symm hne
      · exact ⟨e, he, y, hy, heq⟩
    · rintro ⟨e, he, y, hy, heq⟩
      have hkey : e.1 = first := (List.cons.inj (Prod.mk.inj heq).1).1
      exact ⟨e, (mem_alter h).2 (.inr ⟨he, hkey ▸ hne⟩), y, hy, heq⟩

/-- The leaves below a place are those of the table that is there. -/
theorem mem_leavesAt_cons {old : Option Tree} :
    (key :: path, l) ∈ leavesAt old ↔ (key :: path, l) ∈ (entriesOf old).leaves := by
  match old with
  | none => exact Iff.rfl
  | some (.leaf _) => simp [leavesAt, entriesOf, Tree.leaves, leaves]
  | some (.table _) => exact Iff.rfl

/-- Leaves beyond a path are below its first key. -/
theorem none_beyond_cons {old : Option Tree} (h : (entriesOf old).Sorted) :
    (∀ y ∈ leavesAt old, ¬ GoesBeyond y.1 (key :: path)) ↔
      ∀ y ∈ leavesAt ((entriesOf old).lookup key), ¬ GoesBeyond y.1 path := by
  constructor
  · intro hnone y hy
    rw [mem_leavesAt_lookup h, ← mem_leavesAt_cons] at hy
    exact fun hbeyond => hnone _ hy (goesBeyond_cons_iff.2 hbeyond)
  · rintro hnone ⟨place, m⟩ hy hbeyond
    cases place with
    | nil => exact not_goesBeyond_nil hbeyond
    | cons first place =>
      obtain rfl : key = first := (List.cons_prefix_cons.1 hbeyond.1).1
      rw [mem_leavesAt_cons, ← mem_leavesAt_lookup h] at hy
      exact hnone _ hy (goesBeyond_cons_iff.1 hbeyond)

/-- A value that is put in becomes a leaf unless there are leaves beyond its path. Leaves on the way
to it, or at its own place, go; all others stay. -/
theorem mem_leaves_put (l : Leaf) (path : List Text) {old : Option Tree} (h : PlaceOrdered old)
    (x : List Text × Leaf) :
    x ∈ (put l path old).leaves ↔
      (x = (path, l) ∧ ∀ y ∈ leavesAt old, ¬ GoesBeyond y.1 path) ∨
        (x ∈ leavesAt old ∧ ¬ x.1 <+: path) := by
  induction path generalizing old x with
  | nil =>
    match old with
    | none => simp [put, leafOr, leavesAt, Tree.leaves]
    | some (.leaf old) =>
      have hold : x = ([], old) → x.1 = [] := fun heq => heq ▸ rfl
      simpa [put, leafOr, leavesAt, Tree.leaves, goesBeyond_nil_iff] using
        fun heq hne => absurd (hold heq) hne
    | some (.table entries) =>
      obtain ⟨y, hy⟩ := (h _ rfl).exists_mem_leaves
      simp only [goesBeyond_nil_iff, List.prefix_nil]
      constructor
      · exact fun hx => .inr ⟨hx, ne_nil_of_mem_leaves hx⟩
      · rintro (⟨-, hnone⟩ | ⟨hx, -⟩)
        · exact absurd (ne_nil_of_mem_leaves hy) (hnone y hy)
        · exact hx
  | cons key rest ih =>
    obtain ⟨place, m⟩ := x
    have hsorted := h.entriesOf.sorted
    show (place, m) ∈ (alter key (put l rest) (entriesOf old)).leaves ↔ _
    cases place with
    | nil =>
      have hroot : ([], m) ∉ (alter key (put l rest) (entriesOf old)).leaves := fun hleaf =>
        ne_nil_of_mem_leaves hleaf rfl
      simp [hroot]
    | cons first place =>
      rw [mem_leaves_alter hsorted]
      split
      · next heq =>
        subst heq
        rw [ih (h.entriesOf.lookup first), mem_leavesAt_lookup hsorted, ← mem_leavesAt_cons,
          none_beyond_cons hsorted]
        simp
      · next hne =>
        rw [← mem_leavesAt_cons]
        simp [hne]

theorem ordered_insert (h : t.Ordered) (l : Leaf) (path : List Text) :
    (insert l path t).Ordered := by
  cases path with
  | nil => exact h
  | cons key rest =>
    rw [insert_cons]
    exact h.alter (ordered_put l rest (h.lookup key))

/-- What putting in a value does to the leaves of a table. -/
theorem mem_leaves_insert (h : t.Ordered) (l : Leaf) (hpath : path ≠ []) (x : List Text × Leaf) :
    x ∈ (insert l path t).leaves ↔
      (x = (path, l) ∧ ∀ y ∈ t.leaves, ¬ GoesBeyond y.1 path) ∨
        (x ∈ t.leaves ∧ ¬ x.1 <+: path) := by
  obtain ⟨key, rest, rfl⟩ := List.exists_cons_of_ne_nil hpath
  rw [insert_cons]
  by_cases hne : t = []
  · have hempty : PlaceOrdered none := fun _ hnone => nomatch hnone
    subst hne
    exact mem_leaves_put l (key :: rest) hempty x
  · have htable : PlaceOrdered (some (.table t)) := fun tree htree => by
      obtain rfl := Option.some.inj htree
      exact .table hne h.sorted h.below
    exact mem_leaves_put l (key :: rest) htable x

/-! ## Putting in values one after the other -/

section Values

variable {values : List (List Text × Leaf)}

theorem ofPaths_concat (values : List (List Text × Leaf)) (v : List Text × Leaf) :
    ofPaths (values ++ [v]) = insert v.2 v.1 (ofPaths values) := by
  rw [ofPaths, List.foldl_append]
  rfl

theorem ordered_ofPaths (values : List (List Text × Leaf)) : (ofPaths values).Ordered := by
  induction values using List.reverseRecOn with
  | nil => exact ⟨List.Pairwise.nil, fun _ he => nomatch he⟩
  | append_singleton values v ih =>
    rw [ofPaths_concat]
    exact ordered_insert ih v.2 v.1

/-- At the path of a value, or beyond it, there is a leaf. -/
theorem exists_leaf_of_mem (hpaths : ∀ v ∈ values, v.1 ≠ []) {v : List Text × Leaf}
    (hv : v ∈ values) : ∃ x ∈ (ofPaths values).leaves, v.1 <+: x.1 := by
  induction values using List.reverseRecOn generalizing v with
  | nil => cases hv
  | append_singleton values u ih =>
    obtain ⟨hpaths, hu⟩ := List.forall_mem_append.1 hpaths
    have hu : u.1 ≠ [] := hu u (List.mem_singleton.2 rfl)
    have hinsert := mem_leaves_insert (ordered_ofPaths values) u.2 hu
    rw [ofPaths_concat]
    have hlast : ∃ x ∈ (insert u.2 u.1 (ofPaths values)).leaves, u.1 <+: x.1 := by
      by_cases hnone : ∀ y ∈ (ofPaths values).leaves, ¬ GoesBeyond y.1 u.1
      · exact ⟨u, (hinsert u).2 (.inl ⟨rfl, hnone⟩), List.prefix_rfl⟩
      · simp only [not_forall, not_not] at hnone
        obtain ⟨y, hy, hbeyond⟩ := hnone
        have hstays : ¬ y.1 <+: u.1 := fun hback =>
          hbeyond.2 (hbeyond.1.eq_of_length_le hback.length_le)
        exact ⟨y, (hinsert y).2 (.inr ⟨hy, hstays⟩), hbeyond.1⟩
    rcases List.mem_append.1 hv with hv | hv
    · obtain ⟨x, hx, hlead⟩ := ih hpaths hv
      by_cases hgone : x.1 <+: u.1
      · -- the leaf goes, but there is one for the new value
        obtain ⟨y, hy, hnew⟩ := hlast
        exact ⟨y, hy, hlead.trans (hgone.trans hnew)⟩
      · exact ⟨x, (hinsert x).2 (.inr ⟨hx, hgone⟩), hlead⟩
    · obtain rfl := List.mem_singleton.1 hv
      exact hlast

/-- The leaves of a table are the values that were put in, without those that another one goes
beyond. -/
theorem mem_leaves_ofPaths (hpaths : ∀ v ∈ values, v.1 ≠ []) (hnodup : (values.map Prod.fst).Nodup)
    (x : List Text × Leaf) :
    x ∈ (ofPaths values).leaves ↔ x ∈ values ∧ ∀ v ∈ values, ¬ GoesBeyond v.1 x.1 := by
  induction values using List.reverseRecOn generalizing x with
  | nil => simp [ofPaths, leaves]
  | append_singleton values u ih =>
    obtain ⟨hfront, hu⟩ := List.forall_mem_append.1 hpaths
    have hu : u.1 ≠ [] := hu u (List.mem_singleton.2 rfl)
    rw [List.map_append, List.map_singleton, List.nodup_append] at hnodup
    obtain ⟨hnodup, -, hnew⟩ := hnodup
    rw [ofPaths_concat, mem_leaves_insert (ordered_ofPaths values) u.2 hu, List.forall_mem_append,
      List.forall_mem_singleton, List.mem_append, List.mem_singleton]
    constructor
    · rintro (⟨rfl, hnone⟩ | ⟨hx, hlead⟩)
      · refine ⟨.inr rfl, fun v hv hbeyond => ?_, fun hbeyond => hbeyond.2 rfl⟩
        obtain ⟨y, hy, hleaf⟩ := exists_leaf_of_mem hfront hv
        refine hnone y hy ⟨hbeyond.1.trans hleaf, fun heq => ?_⟩
        rw [← heq] at hleaf
        exact hbeyond.2 (hbeyond.1.eq_of_length_le hleaf.length_le)
      · obtain ⟨hx, hnone⟩ := (ih hfront hnodup x).1 hx
        exact ⟨.inl hx, hnone, fun hbeyond => hlead hbeyond.1⟩
    · rintro ⟨hx | rfl, hnone, hlast⟩
      · refine .inr ⟨(ih hfront hnodup x).2 ⟨hx, hnone⟩, fun hlead => hlast ⟨hlead, ?_⟩⟩
        exact hnew x.1 (List.mem_map_of_mem hx) u.1 (List.mem_singleton.2 rfl)
      · exact .inl ⟨rfl, fun y hy => hnone y ((ih hfront hnodup y).1 hy).1⟩

theorem ofPaths_eq_of_perm {others : List (List Text × Leaf)} (hpaths : ∀ v ∈ values, v.1 ≠ [])
    (hnodup : (values.map Prod.fst).Nodup) (hperm : others.Perm values) :
    ofPaths others = ofPaths values := by
  have hpaths' : ∀ v ∈ others, v.1 ≠ [] := fun v hv => hpaths v (hperm.mem_iff.1 hv)
  have hnodup' : (others.map Prod.fst).Nodup := (hperm.map Prod.fst).nodup_iff.2 hnodup
  refine (ordered_ofPaths others).eq_of_leaves (ordered_ofPaths values) fun x => ?_
  rw [mem_leaves_ofPaths hpaths' hnodup', mem_leaves_ofPaths hpaths hnodup]
  simp only [hperm.mem_iff]

end Values

end Table

/-! ## Entries and stores -/

namespace Store

variable {s s' : Store} {entries : List Entry}

/-- The path of an entry in documents, and the leaf that its value is. -/
def placed (e : Entry) : List Text × Leaf := (pathOf e.1, Leaf.ofText e.2)

theorem pathOf_injective : Function.Injective pathOf := by
  intro a b hpath
  rw [← Text.join_splitAt '.' a, ← Text.join_splitAt '.' b]
  exact congrArg (Text.join ['.']) hpath

theorem placed_ne_nil : ∀ v ∈ entries.map placed, v.1 ≠ [] := by
  intro v hv
  obtain ⟨e, -, rfl⟩ := List.mem_map.1 hv
  exact Text.splitAt_ne_nil '.' e.1

theorem nodup_placed (h : (entries.map Prod.fst).Nodup) :
    ((entries.map placed).map Prod.fst).Nodup := by
  have hpaths := h.map pathOf_injective
  rw [List.map_map] at hpaths ⊢
  exact hpaths

/-- No entry has a path that goes beyond the one of this entry. -/
def IsUnsurpassed (entries : List Entry) (e : Entry) : Prop :=
  ∀ other ∈ entries, ¬ GoesBeyond (pathOf other.1) (pathOf e.1)

instance (entries : List Entry) (e : Entry) : Decidable (IsUnsurpassed entries e) :=
  inferInstanceAs (Decidable (∀ other ∈ entries, _))

/-- The table of some entries, put in one after the other. -/
def tableOf (entries : List Entry) : Table := Table.ofPaths (entries.map placed)

theorem mem_leaves_tableOf (h : (entries.map Prod.fst).Nodup) {x : List Text × Leaf} :
    x ∈ (tableOf entries).leaves ↔ ∃ e ∈ entries, IsUnsurpassed entries e ∧ placed e = x := by
  rw [tableOf, Table.mem_leaves_ofPaths placed_ne_nil (nodup_placed h), List.mem_map,
    List.forall_mem_map]
  constructor
  · rintro ⟨⟨e, he, rfl⟩, hnone⟩
    exact ⟨e, he, hnone, rfl⟩
  · rintro ⟨e, he, hnone, rfl⟩
    exact ⟨⟨e, he, rfl⟩, hnone⟩

/-- The keys of a store that have a place in its document, with their values expanded. -/
def properties (s : Store) : List Entry :=
  s.documentKeys.filterMap fun key => (s.getText? key).map fun value => (key, value)

theorem mem_properties {e : Entry} :
    e ∈ s.properties ↔ e.1 ∈ s.documentKeys ∧ s.getText? e.1 = some e.2 := by
  simp only [properties, List.mem_filterMap, Option.map_eq_some_iff]
  constructor
  · rintro ⟨key, hkey, value, hvalue, rfl⟩
    exact ⟨hkey, hvalue⟩
  · rintro ⟨hkey, hvalue⟩
    exact ⟨e.1, hkey, e.2, hvalue, rfl⟩

theorem nodup_properties (h : s.keys.Nodup) : (s.properties.map Prod.fst).Nodup := by
  rw [properties, List.map_filterMap]
  refine (h.filter _).filterMap fun a b key ha hb => ?_
  simp only [Option.map_map, Option.mem_def, Option.map_eq_some_iff] at ha hb
  obtain ⟨_, -, rfl⟩ := ha
  obtain ⟨_, -, hkey⟩ := hb
  exact hkey.symm

theorem document_eq_tableOf (s : Store) : s.document = tableOf s.properties := by
  rw [document, tableOf, properties, List.map_filterMap]
  simp only [Option.map_map]
  rfl

/-- The order of the entries does not matter for what keys are expanded to. -/
theorem getText?_eq_of_perm (h : s.Distinct) (hpolicy : s'.policy = s.policy)
    (hperm : s'.entries.Perm s.entries) (key : Text) : s'.getText? key = s.getText? key := by
  have hnodup : (s'.policy.folded s'.entries).NodupKeys := by
    rw [hpolicy]
    exact (List.perm_nodupKeys (hperm.map _)).2 (Policy.nodupKeys_folded_iff.2 h)
  have hget (key : Text) : s'.get? key = s.get? key := by
    rw [get?_eq_lookup h, get?_eq_lookup (Policy.nodupKeys_folded_iff.1 hnodup), lookup_toFinmap,
      lookup_toFinmap, ← hpolicy]
    exact List.perm_dlookup _ hnodup (hperm.map _)
  rw [getText?, getText?, expander, expander, hget]
  simp only [hget]

/-- Stores with the same entries have the same document, in whichever order the entries came in. -/
theorem document_eq_of_perm (h : s.Distinct) (hpolicy : s'.policy = s.policy)
    (hperm : s'.entries.Perm s.entries) : s'.document = s.document := by
  have hproperties : s'.properties.Perm s.properties := by
    simp only [properties, getText?_eq_of_perm h hpolicy hperm]
    exact ((hperm.map Prod.fst).filter _).filterMap _
  have hkeys := nodup_placed (nodup_properties h.nodup_keys)
  rw [document_eq_tableOf, document_eq_tableOf]
  exact Table.ofPaths_eq_of_perm placed_ne_nil hkeys (hproperties.map placed)

/-- What stands at the path of a key that no other one goes beyond is its value. -/
theorem mem_leaves_document_iff (h : s.keys.Nodup) {key value : Text} (hkey : key ∈ s.documentKeys)
    (hnone : ∀ other ∈ s.documentKeys, ¬ GoesBeyond (pathOf other) (pathOf key))
    (hvalue : s.getText? key = some value) (l : Leaf) :
    (pathOf key, l) ∈ s.document.leaves ↔ l = Leaf.ofText value := by
  rw [document_eq_tableOf, mem_leaves_tableOf (nodup_properties h)]
  constructor
  · rintro ⟨e, he, -, hplaced⟩
    obtain ⟨hpath, rfl⟩ := Prod.mk.inj hplaced
    have hget := (mem_properties.1 he).2
    rw [pathOf_injective hpath, hvalue] at hget
    rw [Option.some.inj hget]
  · rintro rfl
    refine ⟨(key, value), mem_properties.2 ⟨hkey, hvalue⟩, fun other hother => ?_, rfl⟩
    exact hnone other.1 (mem_properties.1 hother).1

/-- **Documents do not depend on the order of entries.** Entries with distinct keys make the same
table in whichever order they are put in, and that is the document of every store that has them as
its properties. The leaves of the table are the entries that no other one goes beyond, each at its
own path. -/
theorem document_order_free (h : (entries.map Prod.fst).Nodup) :
    (∀ others, others.Perm entries → tableOf others = tableOf entries) ∧
    (tableOf entries).leaves.Perm ((entries.filter (IsUnsurpassed entries)).map placed) ∧
    ∀ s : Store, s.properties.Perm entries → s.document = tableOf entries := by
  have hsame (others : List Entry) (hperm : others.Perm entries) :
      tableOf others = tableOf entries :=
    Table.ofPaths_eq_of_perm placed_ne_nil (nodup_placed h) (hperm.map placed)
  refine ⟨hsame, ?_, fun s hperm => ?_⟩
  · have hleaves := (Table.ordered_ofPaths (entries.map placed)).nodup_paths.of_map
    have hentries : ((entries.filter (IsUnsurpassed entries)).map placed).Nodup :=
      (nodup_placed h).of_map.sublist (List.filter_sublist.map placed)
    refine (List.perm_ext_iff_of_nodup hleaves hentries).2 fun x => ?_
    rw [← tableOf, mem_leaves_tableOf h, List.mem_map]
    simp only [List.mem_filter, decide_eq_true_eq, and_assoc]
  · rw [document_eq_tableOf, hsame _ hperm]

/-- Entries for `a.b=2`, `a=1`, `=x` and `.=yes`. -/
def overlapping : List Entry :=
  [("a.b".toList, ['2']), (['a'], ['1']), ([], ['x']), (['.'], "yes".toList)]

/-- Two of the entries give way to others that go beyond them, from both ends of the list. -/
theorem document_order_free_overlapping :
    (tableOf overlapping).leaves =
        [([[], []], .text "yes".toList), ([['a'], ['b']], .integer 2)] ∧
      tableOf overlapping.reverse = tableOf overlapping ∧
      ({ entries := overlapping.reverse } : Store).document = tableOf overlapping := by
  have hdistinct : (overlapping.map Prod.fst).Nodup := by decide
  obtain ⟨hsame, -, hstore⟩ := document_order_free hdistinct
  exact ⟨by decide, hsame _ (List.reverse_perm _), hstore _ (by decide)⟩

end Store

end PropertyConfig
