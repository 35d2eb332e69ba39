import PropertyConfig.Environment
import PropertyConfig.Load.Interpreter

/-!
# Loading

A loader loads resources into stores: from a text, a URL or a file, or into a store that is there
already. Only a root resource that cannot be had makes a load fail.
-/

namespace PropertyConfig

/-- How a loader is set up (`ConfigLoaderBuilder`). -/
structure LoaderOptions where
  ignoreCase : Bool := false
  allowBlank : Bool := true
  logMessages : Bool := true
  /-- The name that a resource gives itself becomes the name of the store. -/
  includeName : Bool := true
  ambient : Option Store := none
  environment : List EnvironmentSource := []

/-- Loads resources (`ConfigLoader`). -/
structure Loader where
  surroundings : Surroundings
  policy : Policy
  includeName : Bool

/-- What a load produced. -/
structure LoadReport where
  store : Store
  diagnostics : List Diagnostic

namespace LoadReport

def hasErrors (r : LoadReport) : Bool := r.diagnostics.any (·.severity == .error)

/-- The diagnostics that are at least that severe. -/
def atLeast (r : LoadReport) (s : Severity) : List Diagnostic :=
  r.diagnostics.filter fun d => s.rank ≤ d.severity.rank

end LoadReport

/-- A load that may have failed, and the URLs that were asked for. -/
structure Attempt (α : Type) where
  fetched : List Url
  result : Except LoadError α

namespace Attempt

def map {α β : Type} (f : α → β) (a : Attempt α) : Attempt β := ⟨a.fetched, a.result.map f⟩

end Attempt

namespace LoaderOptions

/-- The store that is asked for what the resources do not define. Variables of the environment go
before what is given otherwise. -/
def ambientStore (o : LoaderOptions) (vars : List (Text × Text)) : Option Store :=
  if o.environment = [] then o.ambient
  else
    some (o.environment.foldl (fun s source => (s.merge (source.load vars) false).store)
      (o.ambient.getD {}))

/-- The loader that is set up so (`build`), in an environment with some variables. -/
def loader (o : LoaderOptions) (vars : List (Text × Text))
    (fetch : Url → Except LoadError Text) (readUrl : UrlReader) (workingDirectory : Text) :
    Loader where
  surroundings := { fetch, readUrl, ambient := o.ambientStore vars, workingDirectory }
  policy := { ignoreCase := o.ignoreCase, allowBlank := o.allowBlank, logMessages := o.logMessages }
  includeName := o.includeName

end LoaderOptions

namespace Loader

/-- The store that a root resource is interpreted into. -/
def rootStore (l : Loader) (source : Option Url) : Store :=
  let empty : Store := { policy := l.policy }
  source.elim empty fun url => empty.set configUrlKey url.text

/-- Interprets the text of a root resource, the first half of `interpret_root`. -/
def interpretRoot (l : Loader) (source : Option Url) (t : Text) : Outcome :=
  interpret l.surroundings (maxDepth - 1) { source, depth := 1, outer := [] } (l.rootStore source) t

/-- What a load of a root resource with that text produces (`interpret_root`). -/
def loadRoot (l : Loader) (source : Option Url) (t : Text) : Attempt LoadReport :=
  let outcome := l.interpretRoot source t
  { fetched := source.toList ++ outcome.events.filterMap Event.fetched?
    result := .ok
      { store := if l.includeName then outcome.store else outcome.store.remove nameKey
        diagnostics := outcome.events.filterMap Event.diagnostic? } }

/-- Loads a text (`load_str_report`). It has no URL, so relative targets are taken from the working
directory. -/
def loadText (l : Loader) (t : Text) : Attempt LoadReport := l.loadRoot none t

/-- Loads what a URL names (`load_url_report`). -/
def loadUrl (l : Loader) (url : Text) : Attempt LoadReport :=
  match l.surroundings.resolve none url with
  | .error e => ⟨[], .error e⟩
  | .ok url =>
    match l.surroundings.fetch url with
    | .error e => ⟨[url], .error e⟩
    | .ok t => l.loadRoot (some url) t

/-- The path with the working directory in front, unless it is absolute (`file_url`). -/
def absolutePath (l : Loader) (path : Text) : Text :=
  if path.head? = some '/' then path else l.surroundings.workingDirectory ++ '/' :: path

/-- Loads a file (`load_file_report`). -/
def loadFile (l : Loader) (path : Text) : Attempt LoadReport :=
  l.loadUrl (Url.ofFilePath (l.absolutePath path)).text

/-- Merges what a URL names into a store (`load_into`), whose other keys keep their values. -/
def loadInto (l : Loader) (target : Store) (url : Text) : Attempt Merged :=
  (l.loadUrl url).map fun r => target.merge (r.store.remove configUrlKey) l.includeName

end Loader

end PropertyConfig
