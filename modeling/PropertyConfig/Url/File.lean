import PropertyConfig.Url.Basic

/-!
# Files and URLs

The URL of an absolute path, and the path that a `file` URL names. Names on a path are bytes, any
bytes but those of a slash and of zero.
-/

namespace PropertyConfig

/-- A path as it is given to the file system. -/
abbrev PathBytes := List UInt8

namespace Url

def slashByte : UInt8 := 0x2F

/-- The names on an absolute path. Empty ones and single points lead nowhere. -/
def pathNames (path : Text) : List Text :=
  (Text.splitAt '/' path).filter fun name => name != [] && name != ['.']

/-- The `file` URL with some segments in its path. -/
def ofSegments (segments : List Text) : Url where
  scheme := fileScheme
  authority := some {}
  path := .rooted segments
  query := none
  fragment := none

/-- The URL of a file with an absolute path. -/
def ofFilePath (path : Text) : Url :=
  match pathNames path with
  | [] => ofSegments [[]]
  | names => ofSegments (names.map (encode segmentSet))

/-- The URL of a directory with an absolute path. -/
def ofDirectoryPath (path : Text) : Url :=
  ofSegments ((pathNames path).map (encode segmentSet) ++ [[]])

/-- Whether a path ends like a drive, with a letter and a colon or a bar. -/
def endsInDrive (path : PathBytes) : Bool :=
  match path.reverse with
  | sign :: letter :: _ :: _ =>
    (Char.ofNat letter.toNat).isAlpha && (sign == 0x3A || sign == 0x7C)
  | _ => false

/-- The path with a slash behind it if it ends like a drive, which is a directory. -/
def closeDrive (path : PathBytes) : PathBytes :=
  if endsInDrive path then path ++ [slashByte] else path

/-- The path of a `file` URL, which must not name a host. -/
def toFilePath? (u : Url) : Option PathBytes :=
  match u.path, u.authority.bind (·.host) with
  | .rooted segments, none => some (closeDrive (segments.flatMap fun s => slashByte :: decode s))
  | _, _ => none

end Url

end PropertyConfig
