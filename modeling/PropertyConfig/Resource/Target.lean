import PropertyConfig.Resource.Error
import PropertyConfig.Url.File
import PropertyConfig.Url.Reader

/-!
# Targets of includes

What an include names is a scheme and something behind it, which may be relative to the resource
that the include stands in. Within a resource from the network, targets with the scheme `file` are
refused. What URL the texts stand for is up to a reader of URLs.
-/

namespace PropertyConfig.Target

/-- Whether a URL is one of the network. -/
def isNetwork (u : Url) : Bool := u.scheme == Url.httpScheme || u.scheme == Url.httpsScheme

variable (read : UrlReader) (workingDirectory : Text)

/-- The URL that a text, with its scheme in it, stands for by itself. -/
def absolute (target : Text) : Except LoadError Url :=
  (read none target).mapError (.invalidUrl target)

/-- The URL that `rest`, the text behind the scheme, stands for relative to a base. -/
def relative (target : Text) (base : Url) (rest : Text) : Except LoadError Url :=
  (read (some base) rest).mapError (.invalidUrl target)

/-- A target in the file system. Without a resource around it, it is relative to the working
directory. -/
def resolveFile (parent : Option Url) (target rest : Text) : Except LoadError Url :=
  match parent.filter isNetwork with
  | some p => .error (.crossProtocol p.text target)
  | none =>
    if rest = [] then .error .blankInclude
    else if rest.head? = some '/' then absolute read target
    else
      match parent with
      | none => relative read target (Url.ofDirectoryPath workingDirectory) rest
      | some p =>
        if p.scheme = Url.fileScheme then relative read target p rest else absolute read target

/-- A target in the network. It can be relative only to a resource of the same scheme. -/
def resolveNetwork (parent : Option Url) (target scheme rest : Text) : Except LoadError Url :=
  if rest.head? = some '/' then absolute read target
  else
    match parent.filter (·.scheme == scheme) with
    | some p => relative read target p rest
    | none => .error (.invalidUrl target .relativeWithoutBase)

/-- The URL that a target names (`resolve_include_url`). -/
def resolve (parent : Option Url) (target : Text) : Except LoadError Url :=
  let target := Text.trim target
  if target = [] then .error .blankInclude
  else
    match Url.splitScheme? target with
    | none => .error (.invalidUrl target .relativeWithoutBase)
    | some (written, rest) =>
      let scheme := Text.toLower written
      if scheme = Url.fileScheme then resolveFile read workingDirectory parent target rest
      else if scheme = Url.httpScheme ∨ scheme = Url.httpsScheme then
        resolveNetwork read parent target scheme rest
      else .error (.unsupportedScheme scheme)

end PropertyConfig.Target
