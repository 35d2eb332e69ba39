import PropertyConfig.Proofs.Line
import PropertyConfig.Proofs.Load.Place
import PropertyConfig.Url.Parse

/-!
# Includes that fail

An include that leads to no resource, for whichever reason, does what a comment in its place would
do, apart from what it makes known: the URL that was asked for in vain, if one was, and a single
diagnostic (`Inclusion.failed_is_comment`).
-/

namespace PropertyConfig

variable {w : Surroundings} {c : Context} {s : Store} {t t' : Text}

/-- The place of a line that is written in place of another one. -/
def Place.rewritten (p : Place w c s t) (raw : Text)
    (h : Text.lines t' = p.before ++ raw :: p.after) : Place w c s t' :=
  ⟨p.before, raw, p.after, h⟩

/-- A line that is ignored does nothing. -/
theorem Place.result_of_ignored (p : Place w c s t) (h : Line.read p.raw = .ignored) :
    p.result = (p.machine, []) := by
  rw [Place.result, h]
  exact ite_self _

namespace Inclusion

variable (i : Inclusion w c s t)

theorem fails_iff :
    (include? w (c.allowed (interpretIn w)) c i.line i.machine i.target i.isOptional).1 = none ↔
      ∃ f, i.outcome = .error f := by
  rw [include?_allowed, ← Inclusion.outcome]
  cases i.outcome <;> simp

/-- **An include that fails does what a comment does.** The text `t'` has a comment in place of the
include. It leaves the same store and the same state. The include only adds the URL that it asks for
in vain, if it does ask for one, and one diagnostic that is not for information only. -/
theorem failed_is_comment
    (hfails : (include? w (c.allowed (interpretIn w)) c i.line i.machine i.target
      i.isOptional).1 = none)
    {comment : Text} (hcomment : Line.isComment (Text.trim comment))
    (hlines : Text.lines t' = i.before ++ comment :: i.after) :
    ∃ f, i.outcome = .error f ∧
      (interpretIn w c s t).store = (interpretIn w c s t').store ∧
      (interpretIn w c s t).state = (interpretIn w c s t').state ∧
      (∃ a b, fetched (interpretIn w c s t').events = a ++ b ∧
        fetched (interpretIn w c s t).events = a ++ f.url?.toList ++ b) ∧
      ∃ a d b, serious (interpretIn w c s t').events = a ++ b ∧
        serious (interpretIn w c s t).events = a ++ d :: b ∧
        d.source = c.source ∧ d.line = some i.line ∧ d.severity = f.severity i.isOptional := by
  obtain ⟨f, hf⟩ := i.fails_iff.1 hfails
  let p := i.toPlace.rewritten comment hlines
  have hmachine : i.result.1 = p.result.1 := by
    rw [i.result_of_error hf, p.result_of_ignored (Line.read_eq_ignored hcomment)]
    rfl
  have hlater : i.later = p.later := by
    rw [Place.later, Place.later, hmachine]
    rfl
  have hearlier : i.earlier = p.earlier := rfl
  have hnothing : p.result.2 = [] := by
    rw [p.result_of_ignored (Line.read_eq_ignored hcomment)]
  rw [i.interpretIn_eq, p.interpretIn_eq, hlater, hearlier, hnothing]
  refine ⟨f, hf, rfl, rfl, ⟨fetched p.earlier.2, fetched (p.later.2 ++ endEvents c p.later.1),
      by simp, ?_⟩,
    serious p.earlier.2, ⟨c.source, some i.line, f.notice c i.isOptional (Text.trim i.target)⟩,
    serious (p.later.2 ++ endEvents c p.later.1), by simp, ?_, rfl, rfl, f.severity_notice _ _ _⟩
  · simp [i.fetched_result_of_error hf]
  · simp [i.serious_result_of_error hf]

/-- Nothing can be fetched. -/
def offline : Surroundings :=
  { fetch := fun _ => .error (.httpStatus [] 404)
    readUrl := UrlReader.ascii
    ambient := none
    workingDirectory := [] }

/-- The text `%if a`, `%include?=file:/a`, `b=2`, `%endif`. -/
def includingText : Text := "%if a\n%include?=file:/a\nb=2\n%endif".toList

/-- The text `%if a`, `# -`, `b=2`, `%endif`. -/
def commentedText : Text := "%if a\n# -\nb=2\n%endif".toList

/-- The URL `file:///a`. -/
def missingUrl : Url := ⟨Url.fileScheme, some {}, .rooted [['a']], none, none⟩

/-- The include in `includingText`, where `a` is defined. -/
def unfetched : Inclusion offline ⟨none, 1, []⟩ { entries := [(['a'], ['1'])] } includingText where
  before := ["%if a".toList]
  raw := "%include?=file:/a".toList
  after := ["b=2".toList, Line.endIfWord]
  lines_eq := rfl
  written := "file:/a".toList
  isOptional := true
  read_eq := rfl
  executed := by decide

theorem failed_is_comment_unfetched :
    ∃ f : Failure, f.url? = some missingUrl ∧
      (interpretIn offline ⟨none, 1, []⟩ { entries := [(['a'], ['1'])] } includingText).store =
        (interpretIn offline ⟨none, 1, []⟩ { entries := [(['a'], ['1'])] } commentedText).store ∧
      ∃ d, serious (interpretIn offline ⟨none, 1, []⟩ { entries := [(['a'], ['1'])] }
          includingText).events = [d] ∧ d.line = some 2 ∧ d.severity = .debug := by
  have htarget : unfetched.target = "file:/a".toList := rfl
  have houtcome : unfetched.outcome = .error (.unfetched missingUrl (.httpStatus [] 404)) := by
    rw [Inclusion.outcome, htarget]
    exact follow_of_resolve (by decide) rfl
  have hlines : Text.lines commentedText =
      unfetched.before ++ "# -".toList :: unfetched.after := by decide
  obtain ⟨f, hf, hstore, -, -, a, d, b, hcommented, hincluding, -, hline, hseverity⟩ :=
    unfetched.failed_is_comment (unfetched.fails_iff.2 ⟨_, houtcome⟩) (by decide) hlines
  obtain rfl : _ = f := Except.error.inj (houtcome.symm.trans hf)
  have hnothing : serious (interpretIn offline ⟨none, 1, []⟩ { entries := [(['a'], ['1'])] }
      commentedText).events = [] := rfl
  rw [hnothing] at hcommented
  obtain ⟨rfl, rfl⟩ := List.append_eq_nil_iff.1 hcommented.symm
  exact ⟨.unfetched missingUrl (.httpStatus [] 404), rfl, hstore, d, hincluding, hline, hseverity⟩

end Inclusion

end PropertyConfig
