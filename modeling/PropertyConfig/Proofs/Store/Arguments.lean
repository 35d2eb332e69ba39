import PropertyConfig.Proofs.Store.Operations
import PropertyConfig.Proofs.Text.Trimming

/-!
# Written arguments

A property is given on a command line in one of several forms, and the forms can be mixed
(`Arguments.Written`). Whether `-key` stands alone depends on the argument behind it, so arguments
are written with a view to what is behind them. Reading goes through them form by form
(`Argument.read_assignment`, `Argument.read_option`, `Argument.read_bare`) and finds the properties
that they were written for (`Arguments.Written.read_append`). Main statement:
`Store.putArguments_written`.
-/

namespace PropertyConfig

namespace Argument

/-- A key and a value that can be given in an argument. -/
structure IsProperty (e : Entry) : Prop where
  key_ne_nil : e.1 ≠ []
  key_trimmed : Text.trim e.1 = e.1
  key_plain : ∀ c ∈ e.1, c ∉ ['\'', '"', '=', ':']
  key_undashed : isDashed e.1 = false
  value_trimmed : Text.trim e.2 = e.2

/-- A text with a quote at either end, if there is to be one. -/
def quoted (quote : Option Char) (t : Text) : Text := quote.toList ++ t ++ quote.toList

/-- `key=value` or `key:value` behind some dashes. -/
def assignment (dashes : Nat) (e : Entry) (separator : Char) : Text :=
  List.replicate dashes '-' ++ e.1 ++ separator :: e.2

/-! ## Quotes and dashes -/

/-- Where no quote stands in front, there is nothing to take off. -/
theorem unquote_of_bare {t : Text} (h : ∀ c ∈ t.head?, c ∉ ['\'', '"']) : unquote t = t := by
  cases t with
  | nil => rfl
  | cons c t =>
    obtain ⟨hsingle, hdouble⟩ : c ≠ '\'' ∧ c ≠ '"' := by simpa using h c rfl
    simp [unquote, within?, hsingle, hdouble]

theorem within?_quoted (q : Char) (t : Text) : within? q (q :: (t ++ [q])) = some t := by
  simp [within?]

theorem unquote_quoted {quote : Option Char} (hquote : ∀ q ∈ quote, q ∈ ['\'', '"']) {t : Text}
    (h : ∀ c ∈ t.head?, c ∉ ['\'', '"']) : unquote (quoted quote t) = t := by
  cases quote with
  | none =>
    rw [quoted, Option.toList_none, List.nil_append, List.append_nil]
    exact unquote_of_bare h
  | some q =>
    have htext : quoted (some q) t = q :: (t ++ [q]) := by simp [quoted]
    have hq : q = '\'' ∨ q = '"' := by simpa using hquote q rfl
    rw [htext, unquote]
    rcases hq with rfl | rfl
    · rw [within?_quoted]
      rfl
    · -- no single quote stands in front
      have hsingle : within? '\'' ('"' :: (t ++ ['"'])) = Option.none := by simp [within?]
      rw [hsingle, within?_quoted]
      rfl

theorem dropDashes_replicate {t : Text} (h : isDashed t = false) (n : Nat) :
    dropDashes (List.replicate n '-' ++ t) = t := by
  induction n with
  | zero =>
    cases t with
    | nil => rfl
    | cons c t =>
      have hc : c ≠ '-' := by simpa [isDashed] using h
      exact List.dropWhile_cons_of_neg (by simpa using hc)
  | succ n ih => simpa [dropDashes, List.replicate_succ] using ih

/-! ## Reading the forms -/

namespace IsProperty

variable {e : Entry} (h : IsProperty e)

include h

theorem head_plain : ∀ c ∈ e.1.head?, c ∉ ['\'', '"', '=', ':'] := fun c hc =>
  h.key_plain c (List.mem_of_mem_head? hc)

theorem startsBare : Text.startsBare e.1 := (Text.trim_eq_self_iff.1 h.key_trimmed).1

theorem not_separator : ∀ c ∈ e.1, ['=', ':'].contains c = false := by
  intro c hc
  have hplain := h.key_plain c hc
  simp only [List.mem_cons, List.not_mem_nil, or_false, not_or] at hplain
  simp [hplain]

/-- Dashes in front of a key leave it without blanks at its ends. -/
theorem trim_dashed (n : Nat) :
    Text.trim (List.replicate n '-' ++ e.1) = List.replicate n '-' ++ e.1 := by
  refine Text.trim_eq_self_iff.2 ⟨?_, ?_⟩
  · cases n with
    | zero => exact h.startsBare
    | succ n => rfl
  · exact Text.endsBare_append h.key_ne_nil (Text.trim_eq_self_iff.1 h.key_trimmed).2 _

end IsProperty

theorem not_isBlank_of_mem {t : Text} {c : Char} (hc : c ∈ t) (hbare : Text.isBlankChar c = false) :
    Text.isBlank t = false := by
  rw [Text.isBlank, List.all_eq_false]
  exact ⟨c, hc, by simp [hbare]⟩

theorem read_assignment {e : Entry} (h : IsProperty e) (dashes : Nat) {separator : Char}
    (hseparator : separator ∈ ['=', ':']) {quote : Option Char}
    (hquote : ∀ q ∈ quote, q ∈ ['\'', '"']) :
    read ['=', ':'] (quoted quote (assignment dashes e separator)) = .pair e.1 e.2 := by
  have hcases : separator = '=' ∨ separator = ':' := by simpa using hseparator
  have hbare : Text.isBlankChar separator = false := by rcases hcases with rfl | rfl <;> decide
  have hdivides : dividesAt separator = true := by rcases hcases with rfl | rfl <;> decide
  have hblank : Text.isBlank (quoted quote (assignment dashes e separator)) = false :=
    not_isBlank_of_mem (by simp [quoted, assignment]) hbare
  have hhead : ∀ c ∈ (assignment dashes e separator).head?, c ∉ ['\'', '"'] := by
    intro c hc
    cases dashes with
    | zero =>
      rw [assignment, List.replicate_zero, List.nil_append,
        List.head?_append_of_ne_nil _ h.key_ne_nil] at hc
      have hplain := h.head_plain c hc
      simp only [List.mem_cons, not_or] at hplain
      simp [hplain]
    | succ n =>
      obtain rfl : '-' = c := by simpa [assignment, List.replicate_succ] using hc
      decide
  have hcut : Text.cutAt? ['=', ':'].contains (assignment dashes e separator) =
      some (List.replicate dashes '-' ++ e.1, separator, e.2) := by
    refine Text.cutAt?_append (fun c hc => ?_) (List.contains_iff_mem.2 hseparator) e.2
    rcases List.mem_append.1 hc with hc | hc
    · rw [(List.mem_replicate.1 hc).2]
      rfl
    · exact h.not_separator c hc
  rw [read, hblank, unquote_quoted hquote hhead]
  simp only [hcut, h.trim_dashed, dropDashes_replicate h.key_undashed, h.value_trimmed, hdivides,
    h.key_ne_nil, Bool.false_eq_true, Bool.not_true, if_false]

theorem read_option {e : Entry} (h : IsProperty e) :
    read ['=', ':'] ('-' :: e.1) = .option e.1 := by
  have hblank : Text.isBlank ('-' :: e.1) = false := not_isBlank_of_mem List.mem_cons_self rfl
  have hunquote : unquote ('-' :: e.1) = '-' :: e.1 := unquote_of_bare (by simp)
  have hcut : Text.cutAt? ['=', ':'].contains ('-' :: e.1) = Option.none :=
    Text.cutAt?_eq_none (List.forall_mem_cons.2 ⟨rfl, h.not_separator⟩)
  have hdrop : dropDashes ('-' :: e.1) = e.1 := dropDashes_replicate h.key_undashed 1
  rw [read, hblank, hunquote]
  simp [hcut, hdrop, isDashed, h.key_ne_nil]

theorem read_bare {e : Entry} (h : IsProperty e) : read ['=', ':'] e.1 = .pair e.1 [] := by
  obtain ⟨c, rest, hkey⟩ := List.exists_cons_of_ne_nil h.key_ne_nil
  have hbare : Text.isBlankChar c = false := by simpa [hkey, Text.startsBare] using h.startsBare
  have hblank : Text.isBlank e.1 = false :=
    not_isBlank_of_mem (hkey ▸ List.mem_cons_self) hbare
  have hunquote : unquote e.1 = e.1 := by
    refine unquote_of_bare fun d hd => ?_
    have hplain := h.head_plain d hd
    simp only [List.mem_cons, not_or] at hplain
    simp [hplain]
  rw [read, hblank, hunquote]
  simp [Text.cutAt?_eq_none h.not_separator, h.key_undashed, h.key_ne_nil]

theorem read_stop {t : Text} (h : t ∈ [['-'], ['-', '-']]) : read ['=', ':'] t = .stop := by
  rcases List.mem_cons.1 h with rfl | h
  · rfl
  · obtain rfl := List.mem_singleton.1 h
    rfl

end Argument

/-! ## Arguments -/

namespace Arguments

/-- Arguments in which some properties are given, `behind` being the arguments that follow. -/
inductive Written (behind : List Text) : List Entry → List Text → Prop
  | nil : Written behind [] []
  /-- `key=value` or `key:value`, with dashes or not, in quotes or not. -/
  | assignment {pairs arguments} (e : Entry) (dashes : Nat) (separator : Char)
      (quote : Option Char) : separator ∈ ['=', ':'] → (∀ q ∈ quote, q ∈ ['\'', '"']) →
      Written behind pairs arguments →
      Written behind (e :: pairs)
        (Argument.quoted quote (Argument.assignment dashes e separator) :: arguments)
  /-- `-key`, and the value in an argument of its own. -/
  | option {pairs arguments} (e : Entry) : Argument.isDashed e.2 = false →
      Written behind pairs arguments →
      Written behind (e :: pairs) (('-' :: e.1) :: e.2 :: arguments)
  /-- `key` for a blank value. -/
  | bare {pairs arguments} (key : Text) : Written behind pairs arguments →
      Written behind ((key, []) :: pairs) (key :: arguments)
  /-- `-key` for a blank value, where nothing follows that could be the value. -/
  | flag {pairs arguments} (key : Text) :
      (∀ next ∈ (arguments ++ behind).head?, Argument.isDashed next) →
      Written behind pairs arguments →
      Written behind ((key, []) :: pairs) (('-' :: key) :: arguments)

variable {behind arguments : List Text} {pairs : List Entry}

/-- A key with a dash that no value follows has a blank value. -/
theorem read_flag {e : Entry} (h : Argument.IsProperty e) {rest : List Text}
    (hrest : ∀ next ∈ rest.head?, Argument.isDashed next) :
    read ['=', ':'] (('-' :: e.1) :: rest) = (read ['=', ':'] rest).push (e.1, []) := by
  rw [read, Argument.read_option h]
  cases rest with
  | nil => rfl
  | cons next rest => simp [hrest next rfl]

/-- The properties are read that the arguments were written for, then what is behind them. -/
theorem Written.read_append (h : Written behind pairs arguments)
    (hpairs : ∀ e ∈ pairs, Argument.IsProperty e) :
    read ['=', ':'] (arguments ++ behind) =
      ⟨pairs ++ (read ['=', ':'] behind).pairs, (read ['=', ':'] behind).ending⟩ := by
  induction h with
  | nil => rfl
  | @assignment pairs arguments e dashes separator quote hseparator hquote _ ih =>
    obtain ⟨he, hrest⟩ := List.forall_mem_cons.1 hpairs
    rw [List.cons_append, read, Argument.read_assignment he dashes hseparator hquote]
    simp only [ih hrest]
    rfl
  | @option pairs arguments e hvalue _ ih =>
    obtain ⟨he, hrest⟩ := List.forall_mem_cons.1 hpairs
    rw [List.cons_append, List.cons_append, read, Argument.read_option he]
    simp only [hvalue, Bool.false_eq_true, if_false, ih hrest]
    rfl
  | @bare pairs arguments key _ ih =>
    obtain ⟨he, hrest⟩ := List.forall_mem_cons.1 hpairs
    rw [List.cons_append, read, Argument.read_bare he]
    simp only [ih hrest]
    rfl
  | @flag pairs arguments key hnext _ ih =>
    obtain ⟨he, hrest⟩ := List.forall_mem_cons.1 hpairs
    rw [List.cons_append, read_flag he hnext, ih hrest]
    rfl

end Arguments

/-- **Arguments give the properties that they were written for.** Into a store with the usual
separators, arguments put the properties that they were written for, as if these were set in order.
A bare `-` or `--` may follow, with any arguments behind it, which are ignored; the position of the
first one of them is given, if there is one. -/
theorem Store.putArguments_written {s : Store} (hseparators : s.policy.separators = ['=', ':'])
    {pairs : List Entry} (hpairs : ∀ e ∈ pairs, Argument.IsProperty e)
    {arguments behind : List Text} (hwritten : Arguments.Written behind pairs arguments)
    (hbehind : behind = [] ∨ ∃ stop ∈ [['-'], ['-', '-']], ∃ ignored, behind = stop :: ignored) :
    let found := Arguments.read s.policy.separators (arguments ++ behind)
    found.ending = (if behind = [] then .exhausted else .stopped behind.tail) ∧
    found.nextIndex? (arguments ++ behind).length =
      (if behind.tail = [] then none else some (arguments.length + 1)) ∧
    s.perform (.putArguments (arguments ++ behind)) = pairs.foldl (fun s e => s.set e.1 e.2) s := by
  intro found
  have hread : found = ⟨pairs, if behind = [] then .exhausted else .stopped behind.tail⟩ := by
    show Arguments.read s.policy.separators (arguments ++ behind) = _
    rw [hseparators, hwritten.read_append hpairs]
    rcases hbehind with rfl | ⟨stop, hstop, ignored, rfl⟩
    · simp [Arguments.read]
    · simp [Arguments.read, Argument.read_stop hstop]
  refine ⟨by rw [hread], ?_, ?_⟩
  · rw [hread, Arguments.nextIndex?]
    rcases hbehind with rfl | ⟨stop, -, ignored, rfl⟩
    · rfl
    · cases ignored with
      | nil => rfl
      | cons t ignored =>
        simp only [reduceCtorEq, if_false, List.tail_cons, List.length_append, List.length_cons,
          Option.some.injEq]
        omega
  · have hedits : Operation.edits s (.putArguments (arguments ++ behind)) =
        pairs.map fun e => .set e.1 e.2 := congrArg Arguments.edits hread
    rw [perform, hedits, run, List.foldl_map]
    rfl

/-- All forms in turn; what stands behind `--` is not read. -/
theorem Store.putArguments_written_mixed :
    let arguments : List Text :=
      ["-a=1".toList, "'--b:x y'".toList, "-f".toList, "/t".toList, ['p'], "-z".toList]
    let behind : List Text := ["--".toList, "-a=2".toList]
    (Arguments.read ['=', ':'] (arguments ++ behind)).nextIndex? 8 = some 7 ∧
      ({} : Store).perform (.putArguments (arguments ++ behind)) =
        { entries := [(['a'], ['1']), (['b'], "x y".toList), (['f'], "/t".toList), (['p'], []),
            (['z'], [])] } := by
  intro arguments behind
  let pairs : List Entry :=
    [(['a'], ['1']), (['b'], "x y".toList), (['f'], "/t".toList), (['p'], []), (['z'], [])]
  have hpairs : ∀ e ∈ pairs, Argument.IsProperty e := by
    simp only [pairs, List.forall_mem_cons]
    refine ⟨?_, ?_, ?_, ?_, ?_, List.forall_mem_nil _⟩ <;>
      exact ⟨by decide, by decide, by simp, by decide, by decide⟩
  have hwritten : Arguments.Written behind pairs arguments :=
    .assignment (['a'], ['1']) 1 '=' none (by decide) (by simp)
      (.assignment (['b'], "x y".toList) 2 ':' (some '\'') (by decide) (by simp)
        (.option (['f'], "/t".toList) rfl (.bare ['p'] (.flag ['z'] (by decide) .nil))))
  obtain ⟨-, hnext, hstore⟩ := putArguments_written (s := {}) rfl hpairs hwritten
    (.inr ⟨"--".toList, by decide, ["-a=2".toList], rfl⟩)
  exact ⟨hnext, hstore⟩

end PropertyConfig
