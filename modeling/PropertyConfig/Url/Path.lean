import PropertyConfig.Url.Basic

/-!
# Following paths

A path is followed segment by segment from a directory, `..` going up and `.` staying there. In
`file` URLs a drive letter at the start of the path is a directory that is never left.

Characters that do not count are gone from a path before it is followed. Only where they may divide
a drive letter from what is behind it, a `cut` is left in their place.
-/

namespace PropertyConfig.Url

def isLetter (c : Char) : Bool := c.isAlpha

/-- A letter with a colon or a bar. -/
def isDriveLetter : Text → Bool
  | [c, d] => isLetter c && (d = ':' || d = '|')
  | _ => false

/-- A drive letter with a colon. -/
def isNormalDriveLetter : Text → Bool
  | [c, d] => isLetter c && d = ':'
  | _ => false

/-- Whether a text starts with a drive letter that is a segment of its own. -/
def startsWithDriveLetter : Text → Bool
  | c :: d :: rest =>
    isDriveLetter [c, d] && rest.head?.all fun e => e = '/' || e = '\\' || e = '?' || e = '#'
  | _ => false

/-- Stands for characters that do not count, where they matter for a drive letter. -/
def cut : Char := '\t'

def withoutCuts (t : Text) : Text := t.filter (· != cut)

/-- A segment as it is kept. -/
def segmentName (segment : Text) : Text := encode pathSet (withoutCuts segment)

namespace Segment

/-- A point, which may also be percent-encoded, at the front of a segment. -/
def afterDot? : Text → Option Text
  | '.' :: t => some t
  | '%' :: '2' :: 'e' :: t => some t
  | '%' :: '2' :: 'E' :: t => some t
  | _ => none

def isSingleDot (s : Text) : Bool := afterDot? s == some []

def isDoubleDot (s : Text) : Bool := (afterDot? s).bind afterDot? == some []

/-- The segments between the slashes of a text. -/
def split (k : SchemeKind) : Text → List Text
  | [] => [[]]
  | c :: t =>
    match split k t with
    | [] => [[c]]
    | s :: rest => if k.isSlash c then [] :: s :: rest else (c :: s) :: rest

end Segment

/-- A directory on the way along a path, and whether a drive letter was found on it. -/
structure Walk where
  directory : List Text
  drive : Bool := false
deriving DecidableEq, Repr

namespace Walk

/-- The directory above, unless there is none or it is a drive. -/
def up (directory : List Text) : List Text :=
  if directory.getLast?.any isDriveLetter then directory else directory.dropLast

/-- Goes on into a segment. The first one of a `file` URL may be a drive, or a drive that a cut
divides from the name behind it. -/
def enter (k : SchemeKind) (w : Walk) (segment : Text) : Walk :=
  let next := { w with directory := w.directory ++ [segmentName segment] }
  if k = .file ∧ w.directory = [] then
    match segment with
    | [c, d] => if isDriveLetter [c, d] then ⟨[[c, ':']], true⟩ else next
    | c :: d :: e :: rest =>
      if isNormalDriveLetter [c, d] && e == cut then
        { w with directory := [[c, d], segmentName rest] }
      else next
    | _ => next
  else next

/-- Follows the segments of a path. Behind the last one there is no slash, so that a `.` or `..`
there leaves an empty segment. -/
def follow (k : SchemeKind) (w : Walk) : List Text → Walk
  | [] => w
  | segment :: rest =>
    let last := if rest = [] then [[]] else []
    let next :=
      if Segment.isDoubleDot segment then { w with directory := up w.directory ++ last }
      else if Segment.isSingleDot segment then { w with directory := w.directory ++ last }
      else enter k w segment
    follow k next rest

/-- The segments of a path. In `file` URLs no empty ones stand at the front. -/
def segments (k : SchemeKind) (w : Walk) : List Text :=
  if k = .file then
    match w.directory.dropWhile (· == []) with
    | [] => [[]]
    | segments => segments
  else w.directory

end Walk

end PropertyConfig.Url
