import Mathlib.Data.List.Nodup
import Mathlib.Data.List.Perm.Basic
import PropertyConfig.Document.Tree

/-!
# Leaves of a document

The leaves of a document are its values, each with the path to it. In a document in order
(`Tree.Ordered`) keys are sorted and no table below the root is empty. Such a document has one leaf
at most at each path (`Table.Ordered.nodup_paths`), and it is known by its leaves
(`Table.Ordered.eq_of_leaves`): its tables are those that leaves are in, and they are in the only
order that there is.
-/

namespace PropertyConfig

mutual

/-- The leaves of a tree, each with the path to it. -/
def Tree.leaves : Tree → List (List Text × Leaf)
  | .leaf l => [([], l)]
  | .table entries => Table.leaves entries

/-- The leaves of a table, from left to right. -/
def Table.leaves : Table → List (List Text × Leaf)
  | [] => []
  | (key, t) :: rest => t.leaves.map (fun (path, l) => (key :: path, l)) ++ Table.leaves rest

end

/-- The keys of a table are in order, and none is there twice. -/
def Table.Sorted (t : Table) : Prop := t.Pairwise fun a b => a.1 < b.1

/-- Trees in which no table is empty and all are sorted. -/
inductive Tree.Ordered : Tree → Prop
  | leaf (l : Leaf) : Ordered (.leaf l)
  | table {entries : Table} : entries ≠ [] → entries.Sorted → (∀ e ∈ entries, Ordered e.2) →
      Ordered (.table entries)

/-- Tables that are sorted and hold trees in order. The table at the root may be empty. -/
structure Table.Ordered (t : Table) : Prop where
  sorted : t.Sorted
  below : ∀ e ∈ t, e.2.Ordered

namespace Table

variable {t t' : Table} {key : Text} {path : List Text} {l : Leaf} {tree : Tree}

theorem leaves_eq_flatMap (t : Table) :
    t.leaves = t.flatMap fun e => e.2.leaves.map fun x => (e.1 :: x.1, x.2) := by
  induction t with
  | nil => rfl
  | cons e t ih => rw [leaves, ih, List.flatMap_cons]

theorem mem_leaves {x : List Text × Leaf} :
    x ∈ t.leaves ↔ ∃ e ∈ t, ∃ y ∈ e.2.leaves, (e.1 :: y.1, y.2) = x := by
  rw [leaves_eq_flatMap]
  simp only [List.mem_flatMap, List.mem_map]

/-- A table itself is no value. -/
theorem ne_nil_of_mem_leaves {x : List Text × Leaf} (h : x ∈ t.leaves) : x.1 ≠ [] := by
  obtain ⟨e, -, y, -, rfl⟩ := mem_leaves.1 h
  exact List.cons_ne_nil _ _

theorem Sorted.nodup_keys (h : t.Sorted) : (t.map Prod.fst).Nodup := by
  rw [List.Nodup, List.pairwise_map]
  exact h.imp Std.ne_of_lt

/-- Each key has one tree. -/
theorem Sorted.eq_of_mem (h : t.Sorted) {e d : Text × Tree} (he : e ∈ t) (hd : d ∈ t)
    (hkey : e.1 = d.1) : e = d :=
  List.inj_on_of_nodup_map h.nodup_keys he hd hkey

theorem Sorted.mem_leaves_cons (h : t.Sorted) (htree : (key, tree) ∈ t) :
    (key :: path, l) ∈ t.leaves ↔ (path, l) ∈ tree.leaves := by
  rw [mem_leaves]
  constructor
  · rintro ⟨e, he, y, hy, heq⟩
    obtain ⟨⟨rfl, rfl⟩, rfl⟩ : (e.1 = key ∧ y.1 = path) ∧ y.2 = l := by simpa using heq
    have hentry : e = (e.1, tree) := h.eq_of_mem he htree rfl
    rw [hentry] at hy
    exact hy
  · intro hl
    exact ⟨(key, tree), htree, (path, l), hl, rfl⟩

end Table

/-! ## One leaf at a path -/

namespace Tree.Ordered

variable {t t' : Tree}

/-- A tree in order is not without leaves. -/
theorem exists_mem_leaves (h : t.Ordered) : ∃ x, x ∈ t.leaves := by
  induction h with
  | leaf l => exact ⟨_, List.mem_singleton.2 rfl⟩
  | @table entries hne _ _ ih =>
    obtain ⟨e, he⟩ := List.exists_mem_of_ne_nil entries hne
    obtain ⟨x, hx⟩ := ih e he
    exact ⟨_, Table.mem_leaves.2 ⟨e, he, x, hx, rfl⟩⟩

theorem nodup_paths (h : t.Ordered) : (t.leaves.map Prod.fst).Nodup := by
  induction h with
  | leaf l => exact List.nodup_singleton _
  | @table entries _ hsorted _ ih =>
    rw [leaves, Table.leaves_eq_flatMap, List.map_flatMap, List.nodup_flatMap]
    constructor
    · intro e he
      have hpaths : (e.2.leaves.map fun x => (e.1 :: x.1, x.2)).map Prod.fst =
          (e.2.leaves.map Prod.fst).map (e.1 :: ·) := by simp
      rw [hpaths]
      exact (ih e he).map fun a b hab => (List.cons.inj hab).2
    · -- paths under different keys differ
      refine hsorted.imp fun {a b} hlt => ?_
      intro path ha hb
      simp only [List.map_map, List.mem_map, Function.comp_apply] at ha hb
      obtain ⟨x, -, rfl⟩ := ha
      obtain ⟨y, -, hy⟩ := hb
      exact Std.ne_of_lt hlt (List.cons.inj hy).1.symm

end Tree.Ordered

/-! ## Documents are known by their leaves -/

namespace Table

variable {t t' : Table}

/-- What is in a table is in every other one with its leaves, up to a tree with the same leaves. -/
theorem Ordered.exists_of_leaves (h : t.Ordered) (h' : t'.Ordered)
    (hleaves : ∀ x, x ∈ t.leaves ↔ x ∈ t'.leaves) {e : Text × Tree} (he : e ∈ t) :
    ∃ tree, (e.1, tree) ∈ t' ∧ ∀ x, x ∈ e.2.leaves ↔ x ∈ tree.leaves := by
  obtain ⟨x, hx⟩ := (h.below e he).exists_mem_leaves
  have hleaf : (e.1 :: x.1, x.2) ∈ t'.leaves := by
    rw [← hleaves]
    exact (h.sorted.mem_leaves_cons he).2 hx
  obtain ⟨d, hd, y, -, heq⟩ := mem_leaves.1 hleaf
  have hkey : d.1 = e.1 := by simpa using congrArg (fun z => z.1.head?) heq
  have hd : (e.1, d.2) ∈ t' := by rwa [← hkey]
  refine ⟨d.2, hd, fun z => ?_⟩
  rw [← h.sorted.mem_leaves_cons he, hleaves]
  exact h'.sorted.mem_leaves_cons hd

theorem Sorted.eq_of_mem_iff (h : t.Sorted) (h' : t'.Sorted) (hmem : ∀ e, e ∈ t ↔ e ∈ t') :
    t = t' := by
  have hperm : t.Perm t' :=
    (List.perm_ext_iff_of_nodup h.nodup_keys.of_map h'.nodup_keys.of_map).2 hmem
  refine hperm.eq_of_pairwise (fun a b _ _ hab hba => ?_) h h'
  exact absurd hba (List.lt_asymm hab)

/-- Tables with the same leaves are equal if this holds of what is in them. -/
theorem Ordered.eq_of_leaves_of (h : t.Ordered) (h' : t'.Ordered)
    (hbelow : ∀ e ∈ t, ∀ tree : Tree, tree.Ordered → (∀ x, x ∈ e.2.leaves ↔ x ∈ tree.leaves) →
      e.2 = tree)
    (hleaves : ∀ x, x ∈ t.leaves ↔ x ∈ t'.leaves) : t = t' := by
  refine h.sorted.eq_of_mem_iff h'.sorted fun e => ⟨fun he => ?_, fun he => ?_⟩
  · obtain ⟨tree, hmem, hsame⟩ := h.exists_of_leaves h' hleaves he
    rwa [← hbelow e he tree (h'.below _ hmem) hsame] at hmem
  · obtain ⟨tree, hmem, hsame⟩ := h'.exists_of_leaves h (fun x => (hleaves x).symm) he
    have heq := hbelow (e.1, tree) hmem e.2 (h'.below e he) fun x => (hsame x).symm
    obtain rfl : tree = e.2 := heq
    exact hmem

end Table

theorem Tree.Ordered.eq_of_leaves {t t' : Tree} (h : t.Ordered) (h' : t'.Ordered)
    (hleaves : ∀ x, x ∈ t.leaves ↔ x ∈ t'.leaves) : t = t' := by
  induction h generalizing t' with
  | leaf l =>
    have hleaf : ([], l) ∈ t'.leaves := (hleaves _).1 (List.mem_singleton.2 rfl)
    cases h' with
    | leaf l' => simpa [leaves] using hleaf
    | table _ _ _ => exact absurd rfl (Table.ne_nil_of_mem_leaves hleaf)
  | @table entries hne hsorted hbelow ih =>
    cases h' with
    | leaf l' =>
      have hleaf : ([], l') ∈ Table.leaves entries := (hleaves _).2 (List.mem_singleton.2 rfl)
      exact absurd rfl (Table.ne_nil_of_mem_leaves hleaf)
    | @table entries' _ hsorted' hbelow' =>
      have h : Table.Ordered entries := ⟨hsorted, hbelow⟩
      have heq := h.eq_of_leaves_of ⟨hsorted', hbelow'⟩
        (fun e he tree htree hsame => ih e he htree hsame) hleaves
      rw [heq]

namespace Table.Ordered

variable {t t' : Table}

theorem eq_of_leaves (h : t.Ordered) (h' : t'.Ordered)
    (hleaves : ∀ x, x ∈ t.leaves ↔ x ∈ t'.leaves) : t = t' :=
  h.eq_of_leaves_of h' (fun e he _ htree hsame => (h.below e he).eq_of_leaves htree hsame) hleaves

theorem nodup_paths (h : t.Ordered) : (t.leaves.map Prod.fst).Nodup := by
  by_cases hne : t = []
  · simp [hne, leaves]
  · exact (Tree.Ordered.table hne h.sorted h.below).nodup_paths

end Table.Ordered

end PropertyConfig
