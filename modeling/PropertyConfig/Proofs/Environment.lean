import Mathlib.Data.List.Infix
import Mathlib.Tactic.MkIffOfInductiveProp
import PropertyConfig.Environment
import PropertyConfig.Proofs.Store.Operations
import PropertyConfig.Proofs.Text.Lowercase
import PropertyConfig.Proofs.Text.Splitting

/-!
# Keys in the names of variables

A key is put into the name of a variable by writing its parts in upper case behind the word of the
source, with two underscores in front of each (`Given.asVariable`). Reading divides the name at two
underscores and goes back to lower case, which gives the same parts if none of them takes part in a
separator (`Given.key?_asVariable`). Variables with other names give nothing, wherever they stand
(`Mixed`), so the properties come in the order of their own variables. Main statement:
`load_variables`.
-/

namespace PropertyConfig.EnvironmentSource

/-- A part of a key that comes back from upper case, and that ends where the next two underscores
begin. -/
@[mk_iff]
structure IsPart (part : Text) : Prop where
  ascii : ∀ c ∈ part, c.toNat < 0x80
  no_capital : ∀ c ∈ part, c.isUpper = false
  undivided : ¬ ['_', '_'] <:+: part
  last_ne : part.getLast? ≠ some '_'

-- going through the characters of the part, not through all characters
instance (part : Text) : Decidable (IsPart part) :=
  letI (p : Char → Prop) [DecidablePred p] : Decidable (∀ c ∈ part, p c) :=
    List.decidableBAll p part
  decidable_of_iff' _ (isPart_iff part)

/-- A property whose key is made of such parts, with points between them, and is set under this key
as it is, behind those that are set before. -/
structure Given where
  parts : List Text
  value : Text
  isPart : ∀ part ∈ parts, IsPart part
  key_ne_nil : Text.join ['.'] parts ≠ []
  key_unmarked : ∀ c ∈ (Text.join ['.'] parts).head?, isRemovalMarker c = false
  key_ne_nameKey : Text.join ['.'] parts ≠ nameKey

namespace Given

def key (g : Given) : Text := Text.join ['.'] g.parts

def entry (g : Given) : Entry := (g.key, g.value)

/-- The name of the variable behind the word of the source and two underscores. -/
def path (g : Given) : Text := Text.join ['_', '_'] (g.parts.map Text.toUpper)

/-- The variable that gives the property to the source of a word. -/
def asVariable (word : Text) (g : Given) : Text × Text := (word ++ ['_', '_'] ++ g.path, g.value)

end Given

/-- Whether a name is none of those that give properties: it does not start with `lead`, or there is
nothing more to it. -/
def Foreign (lead name : Text) : Prop := ¬ lead <+: name ∨ name = lead

/-- Some variables in their order, with any number of foreign ones in front, behind and between. -/
inductive Mixed (lead : Text) : (own all : List (Text × Text)) → Prop
  | nil : Mixed lead [] []
  | own {own all} (v : Text × Text) : Mixed lead own all → Mixed lead (v :: own) (v :: all)
  | foreign {own all} {v : Text × Text} : Foreign lead v.1 → Mixed lead own all →
      Mixed lead own (v :: all)

/-! ## Names -/

theorem eq_underscore_of_toUpper_eq {c : Char} (h : c.toUpper = '_') : c = '_' := by
  have hupper := Text.toNat_toUpper c
  rw [h, show '_'.toNat = 95 from rfl] at hupper
  rw [← Char.toNat_inj, show '_'.toNat = 95 from rfl]
  split at hupper <;> omega

/-- In upper case a part ends where it does, too. -/
theorem IsPart.not_infix_toUpper {part : Text} (h : IsPart part) :
    ¬ ['_', '_'] <:+: Text.toUpper part ++ ['_'] := by
  refine Text.not_doubled_infix_append (fun hi => ?_) fun hlast => ?_
  · obtain ⟨l, hl, heq⟩ := List.infix_map_iff.1 hi
    obtain ⟨a, rest, rfl, ha, hrest⟩ := List.map_eq_cons_iff.1 heq.symm
    obtain ⟨b, rest, rfl, hb, hnil⟩ := List.map_eq_cons_iff.1 hrest
    obtain rfl := List.map_eq_nil_iff.1 hnil
    rw [eq_underscore_of_toUpper_eq ha, eq_underscore_of_toUpper_eq hb] at hl
    exact h.undivided hl
  · rw [Text.toUpper, List.getLast?_map, Option.map_eq_some_iff] at hlast
    obtain ⟨c, hc, hupper⟩ := hlast
    exact h.last_ne (eq_underscore_of_toUpper_eq hupper ▸ hc)

namespace Given

variable (g : Given)

theorem parts_ne_nil : g.parts ≠ [] := fun h => g.key_ne_nil (by rw [h]; rfl)

theorem path_ne_nil : g.path ≠ [] := by
  have hkey := g.key_ne_nil
  rw [path]
  cases hparts : g.parts with
  | nil => exact absurd hparts g.parts_ne_nil
  | cons part rest =>
    rw [hparts] at hkey
    cases rest with
    | nil => simpa [Text.join, Text.toUpper] using hkey
    | cons next rest => simp [Text.join]

theorem splitOn_path : Text.splitOn ['_', '_'] g.path = g.parts.map Text.toUpper := by
  refine Text.splitOn_join (List.cons_ne_nil _ _) (by simp [g.parts_ne_nil]) fun piece hpiece => ?_
  obtain ⟨part, hpart, rfl⟩ := List.mem_map.1 hpiece
  exact (g.isPart part hpart).not_infix_toUpper

theorem convert_toUpper : (g.parts.map Text.toUpper).map Text.Lowercase.convert = g.parts := by
  rw [List.map_map]
  refine (List.map_congr_left fun part hpart => ?_).trans (List.map_id g.parts)
  exact Text.Lowercase.convert_toUpper (g.isPart part hpart).ascii (g.isPart part hpart).no_capital

/-- The name of a variable gives the key that it was made from. -/
theorem key?_asVariable (word : Text) :
    (EnvironmentSource.of word ['_', '_']).key? (g.asVariable word).1 = some g.key := by
  have hafter : Text.after? (word ++ ['_', '_']) (g.asVariable word).1 = some g.path :=
    Text.after?_append (word ++ ['_', '_']) g.path
  obtain ⟨c, path, hpath⟩ := List.exists_cons_of_ne_nil g.path_ne_nil
  have hsource : EnvironmentSource.of word ['_', '_'] = ⟨word, ['_', '_']⟩ := rfl
  rw [hpath] at hafter
  simp only [hsource, key?, hafter]
  rw [← hpath, g.splitOn_path, g.convert_toUpper, key]

theorem action_entry : Policy.action {} (.set g.entry.1 g.entry.2) = .assign g.key g.value := by
  obtain ⟨c, rest, hkey⟩ := List.exists_cons_of_ne_nil g.key_ne_nil
  have hmarker : isRemovalMarker c = false := g.key_unmarked c (by rw [hkey]; rfl)
  have hcons : g.key = c :: rest := hkey
  simp [entry, hcons, Policy.action, hmarker]

end Given

theorem key?_of_foreign {source : EnvironmentSource} {name : Text}
    (h : Foreign (source.word ++ source.separator) name) : source.key? name = none := by
  rw [key?]
  rcases h with h | rfl
  · rw [Text.after?_eq_none_iff.2 h]
  · have hafter := Text.after?_append (source.word ++ source.separator) []
    rw [List.append_nil] at hafter
    rw [hafter]

/-! ## Variables -/

theorem edits_cons (source : EnvironmentSource) (v : Text × Text) (vars : List (Text × Text)) :
    source.edits (v :: vars) =
      ((source.key? v.1).map (Edit.set · v.2)).toList ++ source.edits vars := by
  obtain ⟨name, value⟩ := v
  cases hkey : source.key? name <;> simp [edits, hkey]

theorem Mixed.edits_eq {source : EnvironmentSource} {own all : List (Text × Text)}
    (h : Mixed (source.word ++ source.separator) own all) :
    source.edits all = source.edits own := by
  induction h with
  | nil => rfl
  | own v _ ih => rw [edits_cons, edits_cons, ih]
  | foreign hforeign _ ih =>
    rw [edits_cons, key?_of_foreign hforeign, ih]
    rfl

theorem edits_asVariable (word : Text) (given : List Given) :
    (EnvironmentSource.of word ['_', '_']).edits (given.map (·.asVariable word)) =
      (given.map Given.entry).map fun (key, value) => .set key value := by
  induction given with
  | nil => rfl
  | cons g given ih =>
    rw [List.map_cons, edits_cons, g.key?_asVariable, ih]
    rfl

/-- **Variables give the properties that they are named for.** Take properties with distinct keys,
and among their variables any others that do not start with the word of the source and two
underscores, or end there. What the source loads is these properties, in their order. -/
theorem load_variables (word : Text) {given : List Given} (hdistinct : (given.map Given.key).Nodup)
    {vars : List (Text × Text)}
    (hvars : Mixed (word ++ ['_', '_']) (given.map (·.asVariable word)) vars) :
    (EnvironmentSource.of word ['_', '_']).load vars = { entries := given.map Given.entry } := by
  have hedits : (EnvironmentSource.of word ['_', '_']).edits vars =
      (given.map Given.entry).map fun (key, value) => .set key value :=
    hvars.edits_eq.trans (edits_asVariable word given)
  have hkeys : Policy.Distinct {} (given.map Given.entry) := by
    rw [Policy.Distinct, List.map_map]
    exact hdistinct
  have hname : ∀ e ∈ (given.map Given.entry).tail, e.1 ≠ nameKey := by
    intro e he
    obtain ⟨g, -, rfl⟩ := List.mem_map.1 (List.mem_of_mem_tail he)
    exact g.key_ne_nameKey
  have hset : ∀ e ∈ given.map Given.entry, Policy.action {} (.set e.1 e.2) = .assign e.1 e.2 := by
    intro e he
    obtain ⟨g, -, rfl⟩ := List.mem_map.1 he
    exact g.action_entry
  rw [load, hedits]
  exact Store.ofEntries_eq hkeys hname hset

/-- The properties `db.max_size` and `%name.x`. -/
def givenPair : List Given :=
  [{ parts := ["db".toList, "max_size".toList]
     value := ['1']
     isPart := by decide
     key_ne_nil := by decide
     key_unmarked := by
       rintro _ ⟨⟩
       decide
     key_ne_nameKey := by decide },
   { parts := ["%name".toList, ['x']]
     value := []
     isPart := by decide
     key_ne_nil := by decide
     key_unmarked := by
       rintro _ ⟨⟩
       decide
     key_ne_nameKey := by decide }]

/-- Their variables for the word `APP` among others. -/
def mixedVariables : List (Text × Text) :=
  [("APP__".toList, ['2']), ("APP__DB__MAX_SIZE".toList, ['1']), ("APP_DB".toList, ['3']),
    ("APP__%NAME__X".toList, []), ("PATH".toList, ['4'])]

theorem load_variables_pair :
    (EnvironmentSource.of "APP".toList ['_', '_']).load mixedVariables =
      { entries := [("db.max_size".toList, ['1']), ("%name.x".toList, [])] } := by
  have hmixed : Mixed ("APP".toList ++ ['_', '_'])
      (givenPair.map (·.asVariable "APP".toList)) mixedVariables :=
    .foreign (.inr rfl) (.own _ (.foreign (.inl (by decide)) (.own _
      (.foreign (.inl (by decide)) .nil))))
  have hdistinct : (givenPair.map Given.key).Nodup := by decide
  exact load_variables "APP".toList hdistinct hmixed

end PropertyConfig.EnvironmentSource
