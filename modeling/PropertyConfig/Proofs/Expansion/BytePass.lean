import PropertyConfig.Proofs.Expansion.Closing
import PropertyConfig.Proofs.Expansion.Numbered

/-!
# A pass over bytes

A pass goes over the bytes of a stored text from left to right. It holds a position, the place up to
which the text has been copied, and what has been written; at each turn it looks for the next
opening delimiter and passes over it, or over a reference, or writes what replaces the reference
(`Expander.turn`). It takes slices of the text and looks numbers up, each of which may fail: a pass
is `none` if it asks for a slice that there is not. Since every turn moves the position on
(`Expander.pos_lt_of_turn`), the pass ends (`Expander.run`).
-/

namespace PropertyConfig

/-! ## The parts of a reference -/

/-- Divides a text at the first occurrence of a delimiter that is in use, by slices of it. -/
def Delimiters.divide? (mark t : Text) : Option (Option (Text × Text)) :=
  match Text.placeOf? mark t with
  | none => some none
  | some i =>
    if mark = [] then some none
    else do
      let front ← t.slice? 0 i
      let behind ← t.from? (i + Text.bytes mark)
      some (some (front, behind))

theorem Delimiters.divide?_eq (mark t : Text) : divide? mark t = some (cut? mark t) := by
  unfold divide? cut? Text.placeOf?
  cases hcut : Text.cut? mark t with
  | none => rw [Option.map_none, ite_self]
  | some p =>
    rw [Option.map_some]
    by_cases hmark : mark = []
    · simp only [hmark, if_true]
    · have ht := Text.cut?_eq_some hcut
      have hfront : t.slice? 0 (Text.bytes p.1) = some p.1 :=
        Text.slice?_eq_some_iff.2 ⟨[], mark ++ p.2, by simp [ht], rfl, rfl⟩
      have hbehind : t.from? (Text.bytes p.1 + Text.bytes mark) = some p.2 :=
        Text.from?_eq_some_iff.2 ⟨p.1 ++ mark, ht, Text.bytes_append _ _⟩
      simp [hmark, hfront, hbehind]

/-- Reads the parts of a reference from the trimmed text between its delimiters
(`parse_reference`). -/
def Reference.read? (d : Delimiters) (whole : Text) : Option Reference := do
  let (front, fallback) ←
    match ← Delimiters.divide? d.fallback whole with
    | some (front, fallback) => some (Text.trim front, fallback)
    | none => some (whole, [])
  match ← Delimiters.divide? d.argument front with
  | some (key, argument) => some ⟨Text.trim key, some argument, fallback⟩
  | none => some ⟨front, none, fallback⟩

theorem Reference.read?_eq (d : Delimiters) (body : Text) :
    Reference.read? d (Text.trim body) = some (Reference.read d body) := by
  simp only [Reference.read?, Reference.read, Delimiters.divide?_eq, Option.bind_eq_bind,
    Option.bind_some]
  cases Delimiters.cut? d.fallback (Text.trim body) with
  | none =>
    dsimp only
    split <;> simp only [*]
  | some p =>
    dsimp only
    split <;> simp only [*]

/-! ## One turn -/

/-- How far a pass has come: what has been written, up to where the text has been copied, where the
pass stands, and the chains. -/
structure Progress where
  out : Numbered
  copied : Nat
  pos : Nat
  frame : Frame
deriving DecidableEq, Repr

/-- A turn of the loop in `expand_pass` ends the search, or it goes on. -/
inductive Turn
  | stop
  | next (p : Progress)
deriving DecidableEq, Repr

open Text.Utf8 (encode)

/-- Whether the byte in front of a place is the escape. -/
def Delimiters.escapedAt? (octets : List UInt8) (start : Nat) : Option Bool :=
  if start = 0 then some false else octets[start - 1]?.map (· == escapeOctet)

theorem Delimiters.escapedAt?_eq (a b : Text) :
    escapedAt? (encode (a ++ b)) (Text.bytes a) = some (a.getLast? == some escapeChar) := by
  by_cases ha : a = []
  · rw [ha]
    rfl
  · have hpos := Text.bytes_pos ha
    have hlt : Text.bytes a - 1 < (encode (a ++ b)).length := by
      rw [Text.Utf8.length_encode, Text.bytes_append]
      omega
    have hbefore := Text.Utf8.getElem?_encode_before_iff utf8EncodeChar_escapeChar ha (b := b)
    rw [List.getElem?_eq_getElem hlt, Option.some.injEq] at hbefore
    rw [escapedAt?, if_neg hpos.ne', List.getElem?_eq_getElem hlt, Option.map_some,
      Option.some.injEq, Bool.eq_iff_iff, beq_iff_eq, beq_iff_eq, hbefore]

namespace Expander

/-- What takes the place of a reference, and the chains then. -/
def replace? (x : Expander) (f : Frame) (n : Nat) (r : Reference) : Option (Numbered × Frame) :=
  match x.lookup r with
  | some value => (f.extend? n r.key).map fun e => (.ofText e.2 (x.filter value), e.1)
  | none => some (.ofText n r.fallback, f)

/-- The turn that comes across a reference between the places `start` and `stop` of its
delimiters. -/
def turnAcross (x : Expander) (t : Numbered) (p : Progress) (start stop : Nat) : Option Turn := do
  let body ← t.text.slice? (start + Text.bytes x.delimiters.opening) stop
  let r ← Reference.read? x.delimiters (Text.trim body)
  let n ← t.origins[start]?
  let held ← p.frame.holds? n r.key
  let behind := stop + Text.bytes x.delimiters.closing
  if held then some (.next { p with pos := behind })
  else do
    let (replacement, frame) ← x.replace? p.frame n r
    let kept ← t.slice? p.copied start
    some (.next ⟨p.out ++ kept ++ replacement, behind, behind, frame⟩)

variable (x : Expander) (hd : x.delimiters.Active)

def turn (t : Numbered) (p : Progress) : Option Turn := do
  let rest ← t.text.from? p.pos
  match Text.placeOf? x.delimiters.opening rest with
  | none => some .stop
  | some found =>
    let start := p.pos + found
    let behind := start + Text.bytes x.delimiters.opening
    let escaped ← Delimiters.escapedAt? (encode t.text) start
    if escaped then some (.next { p with pos := behind })
    else
      match x.delimiters.closingAt? hd (encode t.text) behind 0 with
      | none => some .stop
      | some stop => x.turnAcross t p start stop

variable {x hd}

theorem pos_of_turnAcross {t : Numbered} {p q : Progress} {start stop : Nat}
    (h : x.turnAcross t p start stop = some (.next q)) :
    q.pos = stop + Text.bytes x.delimiters.closing := by
  simp only [turnAcross, Option.bind_eq_bind, Option.bind_eq_some_iff] at h
  obtain ⟨body, -, r, -, n, -, held, -, h⟩ := h
  split at h
  · cases h
    rfl
  · simp only [Option.bind_eq_some_iff] at h
    obtain ⟨e, -, kept, -, h⟩ := h
    cases h
    rfl

theorem pos_lt_of_turn {t : Numbered} {p q : Progress} (h : x.turn hd t p = some (.next q)) :
    p.pos < q.pos := by
  have hopening := Text.bytes_pos hd.opening_ne_nil
  simp only [turn, Option.bind_eq_bind, Option.bind_eq_some_iff] at h
  obtain ⟨rest, -, h⟩ := h
  split at h
  · cases h
  · simp only [Option.bind_eq_some_iff] at h
    obtain ⟨escaped, -, h⟩ := h
    split at h
    · cases h
      dsimp only
      omega
    · split at h
      · cases h
      · next stop hstop =>
        have hle := Delimiters.le_of_closingAt? hd hstop
        rw [pos_of_turnAcross h]
        omega

/-- A turn, read by characters. -/
theorem turn_eq {t : Numbered} {p : Progress} {a b : Text} (ht : t.text = a ++ b)
    (hpos : p.pos = Text.bytes a) :
    x.turn hd t p =
      match Text.cut? x.delimiters.opening b with
      | none => some .stop
      | some (u, v) =>
        if (a ++ u).getLast? = some escapeChar then
          some (.next { p with pos := Text.bytes (a ++ u ++ x.delimiters.opening) })
        else
          match x.delimiters.bodyLength? v with
          | none => some .stop
          | some n => x.turnAcross t p (Text.bytes (a ++ u))
              (Text.bytes (a ++ u ++ x.delimiters.opening ++ v.take n)) := by
  have hfrom : t.text.from? p.pos = some b := Text.from?_eq_some_iff.2 ⟨a, ht, hpos.symm⟩
  rw [turn, hfrom, Option.bind_eq_bind, Option.bind_some, Text.placeOf?]
  cases hcut : Text.cut? x.delimiters.opening b with
  | none => rfl
  | some w =>
    obtain ⟨u, v⟩ := w
    have htext : t.text = a ++ u ++ x.delimiters.opening ++ v := by
      rw [ht, Text.cut?_eq_some hcut]
      simp only [List.append_assoc]
    have hstart : p.pos + Text.bytes u = Text.bytes (a ++ u) := by rw [hpos, Text.bytes_append]
    have hescaped : Delimiters.escapedAt? (encode t.text) (Text.bytes (a ++ u)) =
        some ((a ++ u).getLast? == some escapeChar) := by
      rw [htext, List.append_assoc (a ++ u), Delimiters.escapedAt?_eq]
    have hclosing := Delimiters.closingAt?_eq hd 0 (a ++ u ++ x.delimiters.opening) v
    simp only [Option.map_some, hstart, hescaped, Option.bind_eq_bind, Option.bind_some,
      beq_iff_eq]
    rw [← Text.bytes_append, htext, hclosing, Delimiters.bodyLength?]
    cases x.delimiters.bodyLengthFrom? 0 0 v with
    | none => rfl
    | some n => simp only [Option.map_some, ← Text.bytes_append]

/-- What is done about a reference, where `chain` is what it came out of. -/
theorem turnAcross_eq {p : Progress} {front written rest : Numbered} {body : Text} {r : Reference}
    {n : Nat} {chain : List Text} (hfront : front.IsAligned)
    (hwritten : written.text = x.delimiters.opening ++ (body ++ x.delimiters.closing))
    (hr : Reference.read x.delimiters body = r) (hn : written.origins.head? = some n)
    (hchain : p.frame.chains[n]? = some chain) :
    let t := front ++ (written ++ rest)
    let start := Text.bytes front.text
    let behind := Text.bytes (front ++ written).text
    x.turnAcross t p start (Text.bytes (front.text ++ x.delimiters.opening ++ body)) =
      if r.key ∈ chain then some (.next { p with pos := behind })
      else
        (x.replace? p.frame n r).bind fun e =>
          (t.slice? p.copied start).bind fun kept =>
            some (.next ⟨p.out ++ kept ++ e.1, behind, behind, e.2⟩) := by
  intro t start behind
  have hslice : t.text.slice? (start + Text.bytes x.delimiters.opening)
      (Text.bytes (front.text ++ x.delimiters.opening ++ body)) = some body := by
    refine Text.slice?_eq_some_iff.2
      ⟨front.text ++ x.delimiters.opening, x.delimiters.closing ++ rest.text, ?_, ?_, rfl⟩
    · simp only [t, Numbered.text_append, hwritten, List.append_assoc]
    · rw [Text.bytes_append]
  have horigin : t.origins[start]? = some n := by
    have hdrop : (front.origins ++ (written.origins ++ rest.origins)).drop start =
        written.origins ++ rest.origins := List.drop_left' hfront
    rw [← List.head?_drop, Numbered.origins_append, Numbered.origins_append, hdrop,
      List.head?_append, hn, Option.some_or]
  have hheld : p.frame.holds? n r.key = some (chain.contains r.key) := by
    rw [Frame.holds?, hchain, Option.map_some]
  have hbehind : Text.bytes (front.text ++ x.delimiters.opening ++ body) +
      Text.bytes x.delimiters.closing = behind := by
    rw [← Text.bytes_append]
    simp only [behind, Numbered.text_append, hwritten, List.append_assoc]
  rw [turnAcross]
  simp only [hslice, Option.bind_eq_bind, Option.bind_some, Reference.read?_eq, hr, horigin, hheld,
    List.contains_iff_mem, hbehind]

/-! ## All turns -/

variable (x hd)

/-- Turn after turn, up to the end of the text. -/
def run (t : Numbered) (p : Progress) : Option Progress :=
  if p.pos < Text.bytes t.text then
    match _h : x.turn hd t p with
    | none => none
    | some .stop => some p
    | some (.next q) => run t q
  else some p
termination_by Text.bytes t.text - p.pos
decreasing_by
  have := pos_lt_of_turn _h
  omega

variable {x hd}

theorem run_of_length_le {t : Numbered} {p : Progress} (h : Text.bytes t.text ≤ p.pos) :
    x.run hd t p = some p := by
  rw [run, if_neg (Nat.not_lt.2 h)]

theorem run_of_turn_eq_stop {t : Numbered} {p : Progress} (h : x.turn hd t p = some .stop) :
    x.run hd t p = some p := by
  rw [run]
  split
  · split <;> simp_all
  · rfl

theorem run_of_turn_eq_next {t : Numbered} {p q : Progress} (hpos : p.pos < Text.bytes t.text)
    (h : x.turn hd t p = some (.next q)) : x.run hd t p = x.run hd t q := by
  rw [run, if_pos hpos]
  split <;> simp_all

variable (x hd)

/-- The text after one more pass, and the chains then (`expand_pass`). -/
def passOnBytes? (t : Numbered) (f : Frame) : Option (Numbered × Frame) := do
  let p ← x.run hd t ⟨.empty, 0, 0, f⟩
  let rest ← t.from? p.copied
  some (p.out ++ rest, p.frame)

end Expander

end PropertyConfig
