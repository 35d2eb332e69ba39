import PropertyConfig.Url.Host.Basic

/-!
# URLs

The parts of a URL, and its text. The parts are kept as they are written, percent-encoded.
-/

namespace PropertyConfig

namespace Url

/-- Who answers for a URL. The user and the password are empty where they are not given; a port is
given only if it is not the usual one of the scheme. -/
structure Authority where
  user : Text := []
  password : Text := []
  host : Option Host := none
  port : Option Nat := none
deriving DecidableEq, Repr

/-- A path is a list of segments, each with a slash in front of it, or else a text of its own. -/
inductive Path
  | rooted (segments : List Text)
  | rootless (t : Text)
deriving DecidableEq, Repr

def Path.text : Path → Text
  | .rooted segments => segments.flatMap ('/' :: ·)
  | .rootless t => t

namespace Authority

/-- The user and the password, with a sign behind them if there is any of them. -/
def userText (a : Authority) : Text :=
  if a.user = [] ∧ a.password = [] then []
  else a.user ++ (if a.password = [] then [] else ':' :: a.password) ++ ['@']

def text (a : Authority) : Text :=
  a.userText ++ a.host.elim [] Host.text ++ a.port.elim [] (':' :: decimalDigits ·)

end Authority

end Url

structure Url where
  scheme : Text
  authority : Option Url.Authority
  path : Url.Path
  query : Option Text
  fragment : Option Text
deriving DecidableEq, Repr

namespace Url

/-- What stands between the scheme and the path. Where there is no authority, a path that starts
like one is kept from being taken for it. -/
def authorityText (u : Url) : Text :=
  match u.authority with
  | some a => ['/', '/'] ++ a.text
  | none => if ['/', '/'].isPrefixOf u.path.text then ['/', '.'] else []

/-- The text of a URL. -/
def text (u : Url) : Text :=
  u.scheme ++ ':' :: u.authorityText ++ u.path.text ++ u.query.elim [] ('?' :: ·) ++
    u.fragment.elim [] ('#' :: ·)

/-- What stands behind the last slash of the path. -/
def fileName (u : Url) : Text := ((Text.splitAt '/' u.path.text).getLast?).getD []

/-! ## Schemes -/

def fileScheme : Text := ['f', 'i', 'l', 'e']
def httpScheme : Text := ['h', 't', 't', 'p']
def httpsScheme : Text := ['h', 't', 't', 'p', 's']

/-- The schemes with a special meaning that name a host, with their usual ports. -/
def usualPorts : List (Text × Nat) :=
  [(httpScheme, 80), (httpsScheme, 443), (['f', 't', 'p'], 21), (['w', 's'], 80),
   (['w', 's', 's'], 443)]

/-- How the URLs of a scheme are read. -/
inductive SchemeKind
  | file
  /-- A special scheme other than `file`. -/
  | network
  | other
deriving DecidableEq, Repr

def SchemeKind.of (scheme : Text) : SchemeKind :=
  if scheme = fileScheme then .file
  else if (usualPorts.lookup scheme).isSome then .network
  else .other

def SchemeKind.isSpecial (k : SchemeKind) : Bool := k != .other

/-- Whether a character divides the segments of a path: also a backslash does, unless the scheme has
no special meaning. -/
def SchemeKind.isSlash (k : SchemeKind) (c : Char) : Bool := c = '/' || (k.isSpecial && c = '\\')

end Url

end PropertyConfig
