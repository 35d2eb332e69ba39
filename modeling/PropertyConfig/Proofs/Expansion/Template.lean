import Mathlib.Logic.Relation
import PropertyConfig.Proofs.Expansion.Pass
import PropertyConfig.Proofs.Text.Trimming

/-!
# Templates

A template is a text taken apart into literal stretches, references that are meant literally, and
references with fallbacks that are templates again. Its references are replaced one by one, each by
the template of its key or else by its fallback, until there are none (`Evaluates`). A reference
that is written out is read back with its key and its fallback (`read_bodyText`).
-/

namespace PropertyConfig

/-- A text in which references are told apart from what stands around them. -/
inductive Template
  | done
  | literal (t : Text) (rest : Template)
  /-- A reference that is meant literally. -/
  | escaped (body : Text) (rest : Template)
  | reference (key : Text) (argument : Option Text) (rest : Template)
  | referenceOr (key : Text) (argument : Option Text) (fallback rest : Template)
deriving DecidableEq, Repr

/-- The templates that keys stand for. -/
abbrev Definitions := Text → Option Template

namespace Template

/-! ## Texts of templates -/

def argumentText (argument : Option Text) : Text := argument.elim [] (':' :: ·)

/-- What stands between the delimiters of a reference. -/
def bodyText (key : Text) (argument fallback : Option Text) : Text :=
  key ++ argumentText argument ++ fallback.elim [] ('=' :: ·)

def referenceText (key : Text) (argument fallback : Option Text) : Text :=
  '$' :: '\x7b' :: bodyText key argument fallback ++ ['\x7d']

def escapedText (body : Text) : Text := escapeChar :: '$' :: '\x7b' :: body ++ ['\x7d']

def text : Template → Text
  | .done => []
  | .literal t rest => t ++ text rest
  | .escaped body rest => escapedText body ++ text rest
  | .reference key argument rest => referenceText key argument none ++ text rest
  | .referenceOr key argument fallback rest =>
    referenceText key argument (some (text fallback)) ++ text rest

/-! ## Well-formed templates -/

def isPlain (t : Text) : Bool := t.all Delimiters.isPlainChar

def isKey (t : Text) : Bool :=
  t != [] && Text.trim t == t && isPlain t && !t.contains '=' && !t.contains ':'

def isArgument (argument : Option Text) : Bool :=
  argument.all fun t => isPlain t && !t.contains '='

/-- No reference outside the fallbacks is meant literally. -/
def isUnescaped : Template → Bool
  | .done => true
  | .literal _ rest => isUnescaped rest
  | .escaped _ _ => false
  | .reference _ _ rest => isUnescaped rest
  | .referenceOr _ _ _ rest => isUnescaped rest

/-- Literal texts have none of the characters that delimit references. A fallback holds no reference
that is meant literally and ends with no blank. -/
def isWellFormed : Template → Bool
  | .done => true
  | .literal t rest => isPlain t && isWellFormed rest
  | .escaped body rest => isPlain body && isWellFormed rest
  | .reference key argument rest => isKey key && isArgument argument && isWellFormed rest
  | .referenceOr key argument fallback rest =>
    isKey key && isArgument argument && isWellFormed fallback && isUnescaped fallback &&
      Text.endsBare (text fallback) && isWellFormed rest

/-! ## Evaluation -/

/-- The keys that are referred to, also within fallbacks. -/
def keys : Template → List Text
  | .done => []
  | .literal _ rest => keys rest
  | .escaped _ rest => keys rest
  | .reference key _ rest => key :: keys rest
  | .referenceOr key _ fallback rest => key :: keys fallback ++ keys rest

/-- The value of a template, and how deep its references go. What takes the place of a reference is
the template of its key or, if the key is not defined, the fallback; it is one level deeper. -/
inductive Evaluates (v : Definitions) : Template → Nat → Text → Prop
  | done : Evaluates v .done 0 []
  | literal {t : Text} {rest : Template} {d : Nat} {out : Text} :
    Evaluates v rest d out → Evaluates v (.literal t rest) d (t ++ out)
  | escaped {body : Text} {rest : Template} {d : Nat} {out : Text} :
    Evaluates v rest d out → Evaluates v (.escaped body rest) d (escapedText body ++ out)
  | reference {key : Text} {argument : Option Text} {rest : Template} {d₁ d₂ : Nat} {o₁ o₂ : Text} :
    Evaluates v ((v key).getD .done) d₁ o₁ → Evaluates v rest d₂ o₂ →
      Evaluates v (.reference key argument rest) (max (d₁ + 1) d₂) (o₁ ++ o₂)
  | referenceOr {key : Text} {argument : Option Text} {fallback rest : Template} {d₁ d₂ : Nat}
    {o₁ o₂ : Text} :
    Evaluates v ((v key).getD fallback) d₁ o₁ → Evaluates v rest d₂ o₂ →
      Evaluates v (.referenceOr key argument fallback rest) (max (d₁ + 1) d₂) (o₁ ++ o₂)

/-- The template of one key refers to another key. -/
def RefersTo (v : Definitions) (key other : Text) : Prop :=
  ∃ t, v key = some t ∧ other ∈ t.keys

/-- No key refers to itself, directly or by way of other keys. -/
def Acyclic (v : Definitions) : Prop := ∀ key, ¬ Relation.TransGen (RefersTo v) key key

/-- References are acyclic if every one of them goes to a key of lower rank. -/
theorem acyclic_of_rank {v : Definitions} (rank : Text → Nat)
    (h : ∀ key other, RefersTo v key other → rank other < rank key) : Acyclic v := by
  have hlt : ∀ key other, Relation.TransGen (RefersTo v) key other → rank other < rank key := by
    intro key other hrefers
    induction hrefers with
    | single hone => exact h _ _ hone
    | tail _ hone ih => exact (h _ _ hone).trans ih
  intro key hrefers
  exact (hlt key key hrefers).false

/-! ## References as they are written -/

theorem trim_eq_of_isKey {key : Text} (h : isKey key) : Text.trim key = key := by
  simp only [isKey, Bool.and_eq_true, beq_iff_eq] at h
  exact h.1.1.1.2

/-- What stands before the fallback's delimiter is trimmed only within the argument. -/
theorem trim_front {key : Text} (h : isKey key) (argument : Option Text) :
    Text.trim (key ++ argumentText argument) =
      key ++ argumentText (argument.map Text.trimEnd) := by
  have hkey := trim_eq_of_isKey h
  cases argument with
  | none => simpa [argumentText] using hkey
  | some a =>
    have hne : key ≠ [] := by rintro rfl; simp [isKey] at h
    obtain ⟨c, rest, rfl⟩ := List.exists_cons_of_ne_nil hne
    have hstart : Text.startsBare (c :: rest ++ ':' :: a) := (Text.trim_eq_self_iff.1 hkey).1
    rw [argumentText, Option.elim_some, Text.trim, Text.trimStart_eq_self_iff.2 hstart,
      Text.trimEnd_append_cons (by decide)]
    rfl

/-- Written with a fallback, a reference's text has no blanks to be trimmed. -/
theorem trim_bodyText {key : Text} (h : isKey key) (argument : Option Text) {fallback : Text}
    (hf : Text.endsBare fallback) :
    Text.trim (bodyText key argument (some fallback)) = bodyText key argument (some fallback) := by
  have hne : key ≠ [] := by rintro rfl; simp [isKey] at h
  obtain ⟨c, rest, rfl⟩ := List.exists_cons_of_ne_nil hne
  have hkey := Text.trim_eq_self_iff.1 (trim_eq_of_isKey h)
  refine Text.trim_eq_self_iff.2 ⟨by simpa [bodyText, Text.startsBare] using hkey.1, ?_⟩
  have hlast : (bodyText (c :: rest) argument (some fallback)).getLast? =
      some (fallback.getLast?.getD '=') := by
    simp [bodyText, List.getLast?_append, List.getLast?_cons]
  rw [Text.endsBare, hlast]
  cases hfl : fallback.getLast? with
  | none => decide
  | some e => simpa [Text.endsBare, hfl] using hf

theorem not_mem_front {key : Text} (h : isKey key) {argument : Option Text}
    (ha : isArgument argument) : '=' ∉ key ++ argumentText argument := by
  simp only [isKey, Bool.and_eq_true] at h
  have hkey : '=' ∉ key := by simpa using h.1.2
  cases argument with
  | none => simpa [argumentText] using hkey
  | some a =>
    simp only [isArgument, Option.all_some, Bool.and_eq_true] at ha
    have ha' : '=' ∉ a := by simpa using ha.2
    simp [argumentText, hkey, ha']

theorem cut?_front {key : Text} (h : isKey key) (argument : Option Text) :
    Delimiters.cut? [':'] (key ++ argumentText argument) = argument.map (key, ·) := by
  have hcolon : ':' ∉ key := by
    simp only [isKey, Bool.and_eq_true] at h
    simpa using h.2
  cases argument with
  | none => simp [argumentText, Delimiters.cut?, Text.cut?_eq_none hcolon]
  | some a => simp [argumentText, Delimiters.cut?, Text.cut?_append hcolon]

/-- A reference that is written out has its key and its fallback. -/
theorem read_bodyText {key : Text} (h : isKey key) {argument : Option Text}
    (ha : isArgument argument) {fallback : Option Text} (hf : fallback.all Text.endsBare) :
    Reference.read {} (bodyText key argument fallback) =
      ⟨key, argument.map Text.trimEnd, fallback.getD []⟩ := by
  have hnot := not_mem_front h ha
  have hfront := trim_front h argument
  have hcut := cut?_front h (argument.map Text.trimEnd)
  unfold Reference.read
  cases fallback with
  | none =>
    have hbody : bodyText key argument none = key ++ argumentText argument := by simp [bodyText]
    have hnone : Delimiters.cut? ['='] (Text.trim (bodyText key argument none)) = none := by
      rw [hbody]
      exact Text.cut?_eq_none fun hmem => hnot ((Text.trim_sublist _).subset hmem)
    simp only [hnone]
    rw [hbody, hfront, hcut]
    cases argument with
    | none => simp [argumentText]
    | some a => simp [trim_eq_of_isKey h]
  | some f =>
    have hsome : Delimiters.cut? ['='] (Text.trim (bodyText key argument (some f))) =
        some (key ++ argumentText argument, f) := by
      rw [trim_bodyText h argument (by simpa using hf)]
      exact Text.cut?_append hnot f
    simp only [hsome, hfront, hcut]
    cases argument with
    | none => simp [argumentText]
    | some a => simp [trim_eq_of_isKey h]

end Template

end PropertyConfig
