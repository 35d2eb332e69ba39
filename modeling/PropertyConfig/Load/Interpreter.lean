import PropertyConfig.Load.Diagnostic
import PropertyConfig.Resource.Target
import PropertyConfig.Store.Edit
import PropertyConfig.Text.Lines

/-!
# Interpreting resources

The text of a resource is interpreted line by line into a store. The lines between `%if` and
`%endif` are executed or skipped; an `%include` interprets another resource into a store of its own,
which is then merged. Nothing here fails: what is wrong is noted, and the line is passed over.

A resource can be included from another one only so deep, see `maxDepth`; this bounds the recursion.
-/

namespace PropertyConfig

/-- The depth of the deepest resources (`MAX_INCLUDE_RECURSION`). The root is at depth 1, and those
at this depth include no others. -/
def maxDepth : Nat := 3

/-- What stays the same during a load: what is fetched and asked for (`LoadEnv`), how URLs are read,
and where the program runs. -/
structure Surroundings where
  fetch : Url → Except LoadError Text
  readUrl : UrlReader
  /-- Asked for keys that no resource at hand defines. -/
  ambient : Option Store
  workingDirectory : Text

/-- The URL that a target names (`resolve_include_url`). -/
def Surroundings.resolve (w : Surroundings) (parent : Option Url) (target : Text) :
    Except LoadError Url :=
  Target.resolve w.readUrl w.workingDirectory parent target

/-- Where a resource stands (`IncludeContext`). -/
structure Context where
  source : Option Url
  depth : Nat
  /-- The stores of the resources that include this one, the nearest first. -/
  outer : List Store

/-- Where a line stands relative to a block of lines under a condition (`ConditionalState`). -/
inductive BlockState
  | outside
  | taken
  | skipped
deriving DecidableEq, Repr

/-- What the lines of a resource act on. -/
structure Machine where
  store : Store
  state : BlockState := .outside
  debugMode : Bool := false
deriving DecidableEq

/-- What becomes known outside: that a resource is asked for, by one at some depth, or that
something is noted. -/
inductive Event
  | fetch (depth : Nat) (url : Url)
  | note (d : Diagnostic)

def Event.fetched? : Event → Option Url
  | .fetch _ url => some url
  | .note _ => none

def Event.diagnostic? : Event → Option Diagnostic
  | .fetch _ _ => none
  | .note d => some d

/-- What came of a text: the store, the state after its last line, and all that became known. -/
structure Outcome where
  store : Store
  state : BlockState
  events : List Event

/-- Interprets the text of a resource into a store. -/
abbrev Reader := Context → Store → Text → Outcome

namespace Context

/-- A notice about a line. -/
def noteAt (c : Context) (line : Nat) (n : Notice) : Event := .note ⟨c.source, some line, n⟩

/-- The stores that are asked for a key, in this order (`ScopedLookup`). -/
def scope (c : Context) (w : Surroundings) (s : Store) : List Store :=
  s :: c.outer ++ w.ambient.toList

/-- The context of a resource that is included from a store (`child`). -/
def below (c : Context) (url : Url) (s : Store) : Context :=
  { source := some url, depth := c.depth + 1, outer := s :: c.outer }

end Context

/-- The value of a key in the first of some stores that defines it (`get` of a `ScopedLookup`). -/
def lookupIn (stores : List Store) (key : Text) : Option Text := stores.findSome? (·.get? key)

/-- Expands a text against some stores (`expand` of a `ScopedLookup`). -/
def expandIn (stores : List Store) (t : Text) : Text :=
  ({ lookup := fun r => lookupIn stores r.key } : Expander).expand t

/-! ## Includes -/

/-- The store of a resource, interpreted from its text into an empty store of the same policy
(`empty_like`). -/
def readIncluded (read : Reader) (c : Context) (s : Store) (url : Url) (t : Text) :
    Store × List Event :=
  let outcome := read (c.below url s) (s.emptied.set configUrlKey url.text) t
  (outcome.store.remove configUrlKey, outcome.events)

/-- Includes the resource that a URL names. The store of the resource is there only if it could be
fetched; otherwise `failed` says what to note (`report_failure`). -/
def includeUrl (w : Surroundings) (read : Reader) (c : Context) (s : Store)
    (failed : LoadError → Event) (url : Url) : Option Store × List Event :=
  match w.fetch url with
  | .error e => (none, [.fetch c.depth url, failed e])
  | .ok t =>
    let (included, events) := readIncluded read c s url t
    (some included, .fetch c.depth url :: events)

/-- Includes what a target names (`include`); the target is expanded already. At the greatest depth
there is no reader, and the include is skipped. -/
def include? (w : Surroundings) (reader : Option Reader) (c : Context) (line : Nat) (m : Machine)
    (target : Text) (isOptional : Bool) : Option Store × List Event :=
  let target := Text.trim target
  let failed (e : LoadError) : Event := c.noteAt line (.includeFailed isOptional target e)
  if target = [] then (none, [failed .blankInclude])
  else
    match reader, w.resolve c.source target with
    | none, _ => (none, [c.noteAt line (.includeSkipped c.depth target)])
    | some _, .error e => (none, [failed e])
    | some read, .ok url =>
      let announced := if m.debugMode then [c.noteAt line (.includingUrl target url)] else []
      let (included, events) := includeUrl w read c m.store failed url
      (included, announced ++ events)

/-! ## Single lines -/

/-- A condition is tested against the values that keys have at its line. Behind a faulty one the
lines are executed. -/
def stepCondition (w : Surroundings) (c : Context) (line : Nat) (m : Machine)
    (test : Except ConditionError Condition) : Machine × List Event :=
  match m.state, test with
  | .outside, .error e => ({ m with state := .taken }, [c.noteAt line (.invalidCondition e)])
  | .outside, .ok condition =>
    let result := condition.holds (lookupIn (c.scope w m.store) condition.key)
    ({ m with state := if result then .taken else .skipped },
      if m.debugMode then [c.noteAt line (.tested condition.key result)] else [])
  | _, _ => (m, [c.noteAt line .nestedIf])

def stepOtherwise (c : Context) (line : Nat) (m : Machine) (trailing : Bool) :
    Machine × List Event :=
  let events := if trailing then [c.noteAt line .otherwiseTrailing] else []
  match m.state with
  | .outside => (m, [c.noteAt line .otherwiseOutside])
  | .taken => ({ m with state := .skipped }, events)
  | .skipped => ({ m with state := .taken }, events)

def stepEndIf (c : Context) (line : Nat) (m : Machine) (trailing : Bool) : Machine × List Event :=
  match m.state with
  | .outside => (m, [c.noteAt line .endIfOutside])
  | _ =>
    ({ m with state := .outside }, if trailing then [c.noteAt line .endIfTrailing] else [])

def stepLog (w : Surroundings) (c : Context) (line : Nat) (m : Machine) (message : Text) :
    Machine × List Event :=
  if m.store.policy.logMessages then
    let message := Text.trim (expandIn (c.scope w m.store) message)
    (m, [c.noteAt line (.logged (c.source.map Url.fileName) message)])
  else (m, [])

def stepInclude (w : Surroundings) (reader : Option Reader) (c : Context) (line : Nat) (m : Machine)
    (target : Text) (isOptional : Bool) : Machine × List Event :=
  let target := expandIn (c.scope w m.store) target
  let announced := if m.debugMode then [c.noteAt line (.including target)] else []
  let (included, events) := include? w reader c line m target isOptional
  ({ m with store := included.elim m.store fun s => (m.store.merge s false).store },
    announced ++ events)

def stepDebugMode (c : Context) (line : Nat) (m : Machine) (value : Text) : Machine × List Event :=
  let debugMode := (Flag.read? false value).getD false
  ({ m with debugMode }, if debugMode then [c.noteAt line .debugModeOn] else [])

/-- Executes a line that is none of a block's own lines. -/
def stepPlain (w : Surroundings) (reader : Option Reader) (c : Context) (line : Nat) (m : Machine) :
    Line → Machine × List Event
  | .log message => stepLog w c line m message
  | .inclusion target isOptional => stepInclude w reader c line m target isOptional
  | .debugMode value => stepDebugMode c line m value
  | .reserved key value => ({ m with store := m.store.set key.key value }, [])
  | .property key value => ({ m with store := m.store.set key value }, [])
  | .unknown key => (m, [c.noteAt line (.unknownKey key)])
  | _ => (m, [])

/-- Does what a line says, unless it is to be skipped (a round of the loop in `interpret`). The
lines that make up blocks never are. -/
def step (w : Surroundings) (reader : Option Reader) (c : Context) (line : Nat) (m : Machine)
    (l : Line) : Machine × List Event :=
  match l with
  | .invalidIf written => (m, [c.noteAt line (.invalidIf written)])
  | .condition test => stepCondition w c line m test
  | .otherwise trailing => stepOtherwise c line m trailing
  | .endIf trailing => stepEndIf c line m trailing
  | l => if m.state = .skipped then (m, []) else stepPlain w reader c line m l

/-! ## Texts -/

/-- Does what some lines say, the first of which has the number `line`. -/
def runLines (w : Surroundings) (reader : Option Reader) (c : Context) :
    (line : Nat) → Machine → List Line → Machine × List Event
  | _, m, [] => (m, [])
  | line, m, l :: rest =>
    let (next, events) := step w reader c line m l
    let (last, more) := runLines w reader c (line + 1) next rest
    (last, events ++ more)

/-- What is noted at the end of a text. -/
def endEvents (c : Context) (m : Machine) : List Event :=
  if m.state = .outside then [] else [.note ⟨c.source, none, .missingEndIf⟩]

/-- Interprets a text (`interpret`); `reader` interprets what it includes. -/
def runText (w : Surroundings) (reader : Option Reader) : Reader := fun c s t =>
  let (m, events) := runLines w reader c 1 { store := s } ((Text.lines t).map Line.read)
  ⟨m.store, m.state, events ++ endEvents c m⟩

/-- Interprets a text that may include others `levels` deep. -/
def interpret (w : Surroundings) : (levels : Nat) → Reader
  | 0 => runText w none
  | levels + 1 => runText w (some (interpret w levels))

end PropertyConfig
