import PropertyConfig.Condition

/-!
# Lines of a property resource

`Line.read` says of a single line what it is: a property, a directive, or nothing. Which directives
are obeyed, and when, is decided elsewhere; a line never depends on the lines around it.
-/

namespace PropertyConfig

/-- The two keys that resources set with a leading `%`. -/
inductive ReservedKey
  | configUrl
  | name
deriving DecidableEq, Repr

/-- The key under which a store keeps its name (`NAME_KEY`). -/
def nameKey : Text := ['%', 'n', 'a', 'm', 'e']

/-- The key under which a store keeps the URL of the resource it was loaded from
(`CONFIG_URL_KEY`). -/
def configUrlKey : Text := ['%', 'c', 'o', 'n', 'f', 'i', 'g', 'U', 'R', 'L']

def ReservedKey.key : ReservedKey → Text
  | .configUrl => configUrlKey
  | .name => nameKey

inductive Line
  /-- Blank, or a comment, or an assignment without a key. -/
  | ignored
  /-- `%if` with something other than a blank behind it; `written` is the line without the blanks
  at its ends. -/
  | invalidIf (written : Text)
  | condition (test : Except ConditionError Condition)
  /-- `trailing` tells whether anything stands behind the directive. -/
  | otherwise (trailing : Bool)
  | endIf (trailing : Bool)
  | log (message : Text)
  | inclusion (target : Text) (isOptional : Bool)
  | debugMode (value : Text)
  | reserved (key : ReservedKey) (value : Text)
  /-- A key with a leading `%` that names no directive. -/
  | unknown (key : Text)
  | property (key value : Text)
deriving Repr

namespace Line

def ifWord : Text := ['%', 'i', 'f']
def otherwiseWord : Text := ['%', 'e', 'l', 's', 'e']
def endIfWord : Text := ['%', 'e', 'n', 'd', 'i', 'f']
def logWord : Text := ['%', 'l', 'o', 'g']
def inclusionWord : Text := ['%', 'i', 'n', 'c', 'l', 'u', 'd', 'e']
def optionalInclusionWord : Text := inclusionWord ++ ['?']
def debugModeWord : Text := ['%', 'd', 'e', 'b', 'u', 'g', 'M', 'o', 'd', 'e']

/-- The rest of a line that starts with `%if`; `written` is the whole line. -/
def readIf (written rest : Text) : Line :=
  match rest with
  | [] => .invalidIf written
  | c :: _ => if Text.isBlankChar c then .condition (Condition.read rest) else .invalidIf written

/-- The message of a `%log` line: one separator may stand before it. -/
def logMessage (rest : Text) : Text :=
  match Text.trim rest with
  | [] => []
  | c :: t => if c = '=' || c = ':' then Text.trim t else c :: t

/-- The directives that are known by what the line starts with, in either state of a block. -/
def readDirective? (d : Text) : Option Line :=
  match Text.after? ifWord d with
  | some rest => some (readIf d rest)
  | none =>
  match Text.after? otherwiseWord d with
  | some rest => some (.otherwise (rest != []))
  | none =>
  match Text.after? endIfWord d with
  | some rest => some (.endIf (rest != []))
  | none => (Text.after? logWord d).map fun rest => .log (logMessage rest)

/-- A key and its value: the key ends at the first `=`, or at the first `:` where there is no `=`.
The value keeps its leading blanks. -/
def splitPair (d : Text) : Text × Text :=
  match Text.cutAt? (· = '=') d with
  | some (key, _, value) => (Text.trim key, value)
  | none =>
    match Text.cutAt? (· = ':') d with
    | some (key, _, value) => (Text.trim key, value)
    | none => (d, [])

/-- An assignment to a key with a leading `%`. -/
def readReserved (key value : Text) : Line :=
  if Text.sameLetters key inclusionWord then .inclusion value false
  else if Text.sameLetters key optionalInclusionWord then .inclusion value true
  else if Text.sameLetters key debugModeWord then .debugMode value
  else if Text.sameLetters key configUrlKey then .reserved .configUrl value
  else if Text.sameLetters key nameKey then .reserved .name value
  else .unknown key

/-- Every other line assigns a value to a key. -/
def readAssignment (d : Text) : Line :=
  let (key, value) := splitPair d
  match key with
  | [] => .ignored
  | c :: _ => if c = '%' then readReserved key (Text.trim value) else .property key value

def isComment (d : Text) : Bool := d.head?.any fun c => c = '#' || c = '!'

/-- What a line is (`classify`). -/
def read (raw : Text) : Line :=
  let d := Text.trim raw
  if d = [] || isComment d then .ignored else (readDirective? d).getD (readAssignment d)

end Line

end PropertyConfig
