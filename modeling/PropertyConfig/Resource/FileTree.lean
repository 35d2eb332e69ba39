import PropertyConfig.Resource.Http
import PropertyConfig.Store.Listing
import PropertyConfig.Text.Utf8
import PropertyConfig.Url.File

/-!
# File trees

Directories and files with their contents, and a directory that paths are relative to. Reading and
writing fail as they do in a file system: every name on a path but the last has to be that of a
directory.
-/

namespace PropertyConfig

inductive FileNode
  | directory
  | file (bytes : List UInt8)
deriving DecidableEq, Repr

/-- The names that lead from the root to a node. -/
abbrev Location := List (List UInt8)

structure FileTree where
  working : Location
  nodes : List (Location × FileNode)
deriving Repr

namespace FileTree

/-- The node at a location. The root is always there. -/
def node? (t : FileTree) (loc : Location) : Option FileNode :=
  if loc = [] then some .directory else t.nodes.lookup loc

/-- The names on a path, an empty one behind a slash at the end. -/
def splitPath : PathBytes → List (List UInt8)
  | [] => [[]]
  | b :: rest =>
    match splitPath rest with
    | [] => [[b]]
    | name :: names => if b = Url.slashByte then [] :: name :: names else (b :: name) :: names

/-- A name that stands for the directory that it is in. -/
def isHere (name : List UInt8) : Bool := name == [] || name == [0x2E]

/-- A name that stands for the directory above. -/
def isAbove (name : List UInt8) : Bool := name == [0x2E, 0x2E]

/-- Where some names lead from a location. -/
def walk (t : FileTree) (loc : Location) : List (List UInt8) → Except FileError Location
  | [] => .ok loc
  | name :: rest =>
    match t.node? loc with
    | none => .error .notFound
    | some (.file _) => .error .notADirectory
    | some .directory =>
      if isHere name then t.walk loc rest
      else if isAbove name then t.walk loc.dropLast rest
      else t.walk (loc ++ [name]) rest

/-- Where a path starts from: the root, or the directory that paths are relative to. -/
def startOf (t : FileTree) (path : PathBytes) : Location :=
  if path.head? = some Url.slashByte then [] else t.working

/-- What no path may be: empty, or with a zero in it. -/
def checkPath (path : PathBytes) : Except FileError Unit :=
  if path.contains 0 then .error .nulInName else if path = [] then .error .notFound else .ok ()

/-- The contents of a file. -/
def read (t : FileTree) (path : PathBytes) : Except FileError (List UInt8) := do
  checkPath path
  match t.node? (← t.walk (t.startOf path) (splitPath path)) with
  | none => .error .notFound
  | some .directory => .error .isADirectory
  | some (.file bytes) => .ok bytes

/-- The tree with a node put at a location. -/
def put (t : FileTree) (loc : Location) (node : FileNode) : FileTree :=
  { t with nodes := (loc, node) :: t.nodes.filter (·.1 != loc) }

/-- The names on a path, without the empty ones behind slashes at the end. -/
def namesOf (path : PathBytes) : List (List UInt8) :=
  ((splitPath path).reverse.dropWhile (· == [])).reverse

/-- Writes a file, in place of the one that is there. A slash at the end is for directories only. -/
def write (t : FileTree) (path : PathBytes) (bytes : List UInt8) : Except FileError FileTree := do
  checkPath path
  let name := (namesOf path).getLast?.getD []
  let directory ← t.walk (t.startOf path) ((namesOf path).dropLast ++ [[]])
  if namesOf path != splitPath path || isHere name || isAbove name ||
      t.node? (directory ++ [name]) == some .directory then
    .error .isADirectory
  else .ok (t.put (directory ++ [name]) (.file bytes))

/-- Makes a directory, with all directories on the way to it. -/
def makeDirectories (t : FileTree) (loc : Location) : FileTree :=
  (List.range loc.length).foldl (fun t i => t.put (loc.take (i + 1)) .directory) t

/-- Where the names on a path lead, empty ones and points left out. -/
def locationOf (path : PathBytes) : Location := (splitPath path).filter (!isHere ·)

/-- A tree with nothing but the directory that paths are relative to. -/
def empty (working : Text) : FileTree :=
  let loc := locationOf (Text.Utf8.encode working)
  makeDirectories ⟨loc, []⟩ loc

/-- Adds a file at a path below the working directory, with the directories that it is in. -/
def addFile (t : FileTree) (path : Text) (bytes : List UInt8) : FileTree :=
  let loc := t.working ++ locationOf (Text.Utf8.encode path)
  (t.makeDirectories loc.dropLast).put loc (.file bytes)

/-- Adds a directory at a path below the working directory. -/
def addDirectory (t : FileTree) (path : Text) : FileTree :=
  t.makeDirectories (t.working ++ locationOf (Text.Utf8.encode path))

/-- The text of the file that a URL names (`fetch_file`). -/
def fetchFile (t : FileTree) (u : Url) : Except LoadError Text :=
  match u.toFilePath? with
  | none => .error (.notAFilePath u.text)
  | some path =>
    match t.read path with
    | .ok bytes => .ok (Text.Utf8.decode bytes)
    | .error .notFound => .error (.fileNotFound (Text.Utf8.decode path))
    | .error e => .error (.readFailed (Text.Utf8.decode path) e)

/-- The text of a resource (`fetch`); those in the network are asked for through `client`. -/
def fetch (t : FileTree) (client : HttpClient) (u : Url) : Except LoadError Text :=
  if u.scheme = Url.fileScheme then t.fetchFile u
  else if u.scheme = Url.httpScheme ∨ u.scheme = Url.httpsScheme then client.fetch u
  else .error (.unsupportedScheme u.scheme)

/-- Saves the entries of a store to a file (`save`). -/
def save (t : FileTree) (s : Store) (path : Text) : Except LoadError FileTree :=
  (t.write (Text.Utf8.encode path) (Text.Utf8.encode s.savedText)).mapError (.writeFailed path)

end FileTree

end PropertyConfig
