import PropertyConfig.Text.Blank
import PropertyConfig.Url.Path
import PropertyConfig.Url.Reader

/-!
# A reader of URLs

The reader `parse` goes by the scheme: `file` URLs may lack a host, those of other special schemes
need one, and URLs of any other scheme may be a scheme with any text. Only for domain names that are
not in ASCII it needs to be told which names in ASCII they stand for; `UrlReader.ascii` knows none.
-/

namespace PropertyConfig

namespace Url

/-! ## Parts of the text -/

/-- Whether a character ends the path. -/
def endsPath (c : Char) : Bool := c = '?' || c = '#'

/-- Whether a text, given backwards, ends with a segment that is a letter and a colon. -/
def endsInDriveLetter : Text → Bool
  | d :: c :: before :: _ =>
    isNormalDriveLetter [c, d] && (before = ':' || SchemeKind.file.isSlash before)
  | _ => false

/-- What remains of a text when the characters that do not count are dropped; `before` is what
precedes it, backwards, and `gap` tells whether some were dropped behind that. -/
def dropUncounted (before : Text) (gap : Bool) : Text → Text
  | [] => []
  | c :: t =>
    if isUncounted c then dropUncounted before true t
    else
      let isCut := gap && endsInDriveLetter before && !(endsPath c || SchemeKind.file.isSlash c)
      (if isCut then [cut, c] else [c]) ++ dropUncounted (c :: before) false t

/-- The text without the characters that do not count. -/
def clean (t : Text) : Text := dropUncounted [] false (withoutEnds t)

/-- The path at the front of a text, and the query and the fragment behind it. -/
def splitPath (t : Text) : Text × Text := (t.takeWhile (!endsPath ·), t.dropWhile (!endsPath ·))

/-- The query and the fragment, each with its sign in front. -/
def readTail (k : SchemeKind) (t : Text) : Option Text × Option Text :=
  let set := if k.isSpecial then specialQuerySet else querySet
  let fragment (t : Text) : Option Text := t.tail?.map (encode fragmentSet)
  match withoutCuts t with
  | '?' :: t =>
    (some (encode set (t.takeWhile (· != '#'))), fragment (t.dropWhile (· != '#')))
  | t => (none, fragment t)

/-! ## The authority -/

variable (toAscii : Text → Option Text)

/-- Whether a character ends the authority. -/
def endsAuthority (k : SchemeKind) (c : Char) : Bool := endsPath c || k.isSlash c

/-- Divides an authority at its last `@`. -/
def splitUser (t : Text) : Option Text × Text :=
  let host := (t.reverse.takeWhile (· != '@')).reverse
  if host = t then (none, t) else (some (t.take (t.length - host.length - 1)), host)

/-- How many characters stand before the colon of a port. Colons within brackets do not count. -/
def hostLength : (bracketed : Bool) → Text → Nat
  | _, [] => 0
  | bracketed, c :: t =>
    if c = ':' ∧ bracketed = false then 0
    else 1 + hostLength (if c = '[' then true else if c = ']' then false else bracketed) t

/-- A port with a colon in front; no digits stand for the usual one. -/
def readPort (scheme : Text) (t : Text) : Except UrlError (Option Nat) :=
  match t with
  | [] | [':'] => .ok none
  | _ :: digits =>
    let port := numeral 10 digits
    if !digits.all Char.isDigit ∨ 65535 < port then .error .invalidPort
    else .ok (if usualPorts.lookup scheme = some port then none else some port)

def readHost (k : SchemeKind) (t : Text) : Except UrlError Host :=
  if k.isSpecial then Host.read toAscii t else Host.readOpaque t

/-- A host and a port, with the user and the password before them. -/
def readHostPort (scheme : Text) (userinfo t : Text) : Except UrlError Authority := do
  let k := SchemeKind.of scheme
  let n := hostLength false t
  let hostText := t.take n
  let port := t.drop n
  let user := encode userSet (userinfo.takeWhile (· != ':'))
  let password := encode userSet ((userinfo.dropWhile (· != ':')).drop 1)
  if hostText = [] then
    if k.isSpecial ∨ port ≠ [] ∨ user ≠ [] ∨ password ≠ [] then .error .emptyHost
    else pure {}
  else
    let host ← readHost toAscii k hostText
    pure { user, password, host := some host, port := ← readPort scheme port }

/-- How many characters at the front of a text belong to the authority. A port ends at a backslash,
whatever the scheme. -/
def authorityLength (k : SchemeKind) (t : Text) : Nat :=
  let t := t.takeWhile (!endsAuthority k ·)
  let host := (splitUser t).2
  let port := host.drop (hostLength false host)
  t.length - (port.dropWhile (· != '\\')).length

/-- An authority; `rest` is what follows it. A user needs a host. -/
def readAuthority (scheme : Text) (t rest : Text) : Except UrlError Authority :=
  match splitUser t with
  | (none, t) => readHostPort toAscii scheme [] t
  | (some userinfo, host) =>
    if userinfo = [] ∧ host = [] ∧ rest ≠ [] then .error .emptyHost
    else readHostPort toAscii scheme userinfo host

/-! ## From the parts to a URL -/

/-- The URL whose path is what is reached from a directory along `t`, up to its query. -/
def along (scheme : Text) (authority : Option Authority) (directory : List Text) (t : Text) : Url :=
  let k := SchemeKind.of scheme
  let (path, tail) := splitPath t
  let walk := Walk.follow k ⟨directory, false⟩ (Segment.split k path)
  let (query, fragment) := readTail k tail
  { scheme, authority, path := .rooted (walk.segments k), query, fragment }

/-- Drops the slash at the front of a path, if there is one. -/
def dropSlash (k : SchemeKind) (t : Text) : Text :=
  match t with
  | [] => []
  | c :: rest => if k.isSlash c then rest else c :: rest

/-- A URL from what stands behind the two slashes before its authority. -/
def withAuthority (scheme : Text) (t : Text) : Except UrlError Url := do
  let k := SchemeKind.of scheme
  let n := authorityLength k t
  let rest := t.drop n
  let authority ← readAuthority toAscii scheme (withoutCuts (t.take n)) rest
  let (path, tail) := splitPath rest
  if !k.isSpecial ∧ path = [] then
    let (query, fragment) := readTail k tail
    pure { scheme, authority := some authority, path := .rooted [], query, fragment }
  else pure (along scheme (some authority) [] (dropSlash k rest))

/-- The URL with another query and fragment, written with its sign in front. -/
def withTail (u : Url) (t : Text) : Url :=
  let (query, fragment) := readTail (SchemeKind.of u.scheme) t
  match t with
  | '?' :: _ => { u with query, fragment }
  | _ => { u with fragment }

/-- The segments of a path; a text of its own has none. -/
def pathSegments (u : Url) : List Text :=
  match u.path with
  | .rooted segments => segments
  | .rootless _ => []

/-- The authority of a `file` URL that names no host. -/
def noHost : Option Authority := some {}

/-- Whether a path from the root comes to a drive. -/
def findsDrive (t : Text) : Bool :=
  (Walk.follow .file ⟨[], false⟩ (Segment.split .file (splitPath t).1)).drive

/-- A `file` URL from what stands behind two slashes. A drive belongs to no host. Where no host is
named, the path keeps its slash, so that an empty segment stands before what may look like a
drive. -/
def fileWithHost (t : Text) : Except UrlError Url := do
  let isEnd (c : Char) : Bool := endsAuthority .file c
  let name := withoutCuts (t.takeWhile (!isEnd ·))
  let rest := t.dropWhile (!isEnd ·)
  if isDriveLetter name then pure (along fileScheme noHost [] t)
  else if name = [] then pure (along fileScheme noHost [] rest)
  else
    match ← Host.read toAscii name with
    | .domain ['l', 'o', 'c', 'a', 'l', 'h', 'o', 's', 't'] =>
      pure (along fileScheme noHost [] rest)
    | host =>
      let path := dropSlash .file rest
      let authority := if findsDrive path then noHost else some { host := some host }
      pure (along fileScheme authority [] path)

/-- A `file` URL from what stands behind a single slash: host and drive are those of the base. -/
def fileFromRoot (base : Option Url) (t : Text) : Url :=
  match base with
  | none => along fileScheme noHost [] t
  | some b =>
    if startsWithDriveLetter t then along fileScheme noHost [] t
    else
      match b.pathSegments with
      | drive :: _ =>
        if isNormalDriveLetter drive then along fileScheme noHost [drive] t
        else along fileScheme b.authority [] t
      | [] => along fileScheme b.authority [] t

/-- A `file` URL from a path without a slash in front. Where the path of the base ends with a drive
letter, that is not left; if it is not the root, the first name is put right behind the colon. -/
def fileRelative (b : Url) (t : Text) : Url :=
  let (path, tail) := splitPath t
  let upper := b.pathSegments.dropLast
  let last := (b.pathSegments.getLast?).getD []
  let name := path.takeWhile (!SchemeKind.file.isSlash ·)
  if !isNormalDriveLetter last then along fileScheme b.authority upper t
  else if upper = [] ∨ Segment.isSingleDot name then along fileScheme b.authority b.pathSegments t
  else if !Segment.isDoubleDot name then along fileScheme b.authority upper (last ++ t)
  else if name = path then
    let (query, fragment) := readTail .file tail
    { b with query, fragment }
  else along fileScheme b.authority b.pathSegments t

/-- A `file` URL from what stands behind the scheme, or from a text without one. -/
def readFile (base : Option Url) (t : Text) : Except UrlError Url :=
  let isSlash := SchemeKind.file.isSlash
  match t, base with
  | c :: d :: rest, _ =>
    if isSlash c && isSlash d then fileWithHost toAscii rest
    else if isSlash c then .ok (fileFromRoot base (d :: rest))
    else .ok (relative base t)
  | [c], _ => .ok (if isSlash c then fileFromRoot base [] else relative base t)
  | [], some b => .ok { b with fragment := none }
  | [], none => .ok (along fileScheme noHost [] [])
where
  /-- A path without a slash in front. -/
  relative (base : Option Url) (t : Text) : Url :=
    match base with
    | none => along fileScheme noHost [] t
    | some b =>
      if t.head?.any endsPath then b.withTail t
      else if startsWithDriveLetter t then along fileScheme noHost [] t
      else fileRelative b t

/-- A URL relative to one of the same scheme that is not `file`. -/
def readRelative (base : Url) (t : Text) : Except UrlError Url :=
  let isSlash (c : Char) : Bool := c = '/' || c = '\\'
  match t with
  | [] => .ok { base with fragment := none }
  | c :: rest =>
    if endsPath c then .ok (base.withTail t)
    else if isSlash c then
      if rest.head?.any isSlash then withAuthority toAscii base.scheme (behindSlashes t)
      else .ok (along base.scheme base.authority [] rest)
    else .ok (along base.scheme base.authority base.pathSegments.dropLast t)
where
  /-- What stands behind two slashes, or behind any number where one of the two is a backslash. -/
  behindSlashes (t : Text) : Text :=
    match t with
    | '/' :: '/' :: rest => rest
    | t => t.dropWhile fun c => c = '/' || c = '\\'

/-- A URL of a scheme without a special meaning, from what stands behind the scheme. -/
def readOther (scheme : Text) (t : Text) : Except UrlError Url :=
  match t with
  | '/' :: '/' :: rest => withAuthority toAscii scheme rest
  | '/' :: rest => .ok (along scheme none [] rest)
  | t =>
    let (path, tail) := splitPath t
    let (query, fragment) := readTail .other tail
    let path := .rootless (encode [] (withoutCuts path))
    .ok { scheme, authority := none, path, query, fragment }

/-- A URL from its scheme and what stands behind it. -/
def readWithScheme (base : Option Url) (scheme : Text) (t : Text) : Except UrlError Url :=
  match SchemeKind.of scheme with
  | .file => readFile toAscii (base.filter (·.scheme == fileScheme)) t
  | .other => readOther toAscii scheme t
  | .network =>
    let isSlash := SchemeKind.network.isSlash
    match base.filter fun b => b.scheme == scheme && (t.takeWhile isSlash).length < 2 with
    | some b => readRelative toAscii b t
    | none => withAuthority toAscii scheme (t.dropWhile isSlash)

/-- Reads a text as a URL, relative to `base` if there is one. -/
def parse (base : Option Url) (t : Text) : Except UrlError Url :=
  let t := clean t
  match splitScheme? t, base with
  | some (scheme, rest), _ => readWithScheme toAscii base (Text.toLower scheme) rest
  | none, none => .error .relativeWithoutBase
  | none, some b =>
    match t, b.path with
    | '#' :: _, _ => .ok (b.withTail t)
    | _, .rootless _ => .error .relativeToOpaque
    | _, .rooted _ =>
      if b.scheme = fileScheme then readFile toAscii base t else readRelative toAscii b t

end Url

/-- The reader that knows of domain names only what is in ASCII. -/
def UrlReader.ascii : UrlReader := Url.parse fun _ => none

end PropertyConfig
