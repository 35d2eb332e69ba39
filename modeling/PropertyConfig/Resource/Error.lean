import PropertyConfig.Document.Decode
import PropertyConfig.Store.Read
import PropertyConfig.Url.Error

/-!
# What can go wrong with resources

The reasons why a resource cannot be read, written, or used as what it should be.
-/

namespace PropertyConfig

/-- Why a file cannot be read or written. -/
inductive FileError
  | notFound
  | notADirectory
  | isADirectory
  | nulInName
  | other (text : Text)
deriving DecidableEq, Repr

def FileError.message : FileError → String
  | .notFound => "No such file or directory (os error 2)"
  | .notADirectory => "Not a directory (os error 20)"
  | .isADirectory => "Is a directory (os error 21)"
  | .nulInName => "file name contained an unexpected NUL byte"
  | .other t => String.ofList t

/-- Why a resource cannot be loaded (`ConfigError`). -/
inductive LoadError
  | fileNotFound (path : Text)
  | readFailed (path : Text) (cause : FileError)
  | writeFailed (path : Text) (cause : FileError)
  /-- No answer came from the network, or none that could be read; the cause is in the words of the
  client. -/
  | httpFailed (url cause : Text)
  | httpStatus (url : Text) (status : Nat)
  | invalidUrl (url : Text) (cause : UrlError)
  | blankInclude
  | notAFilePath (url : Text)
  | unsupportedScheme (scheme : Text)
  /-- A resource from the network asks for a local one. -/
  | crossProtocol (parent url : Text)
  | recursionLimit (depth : Nat) (url : Text)
  | undecodable (cause : DecodeError)

namespace LoadError

def message : LoadError → String
  | .fileNotFound path => "required config file not found: " ++ String.ofList path
  | .readFailed path cause =>
    "failed to read config file '" ++ String.ofList path ++ "': " ++ cause.message
  | .writeFailed path cause =>
    "failed to write properties to '" ++ String.ofList path ++ "': " ++ cause.message
  | .httpFailed url cause =>
    "failed to fetch '" ++ String.ofList url ++ "': " ++ String.ofList cause
  | .httpStatus url status => "'" ++ String.ofList url ++ "' returned HTTP status " ++ status.repr
  | .invalidUrl url cause => "invalid URL '" ++ String.ofList url ++ "': " ++ cause.message
  | .blankInclude => "invalid/blank include URL"
  | .notAFilePath url => "URL does not name a local file: " ++ String.ofList url
  | .unsupportedScheme scheme =>
    "unsupported URL scheme '" ++ String.ofList scheme ++ "' (expected file, http or https)"
  | .crossProtocol parent url =>
    "'" ++ String.ofList url ++ "' cannot be included from '" ++ String.ofList parent ++ "'"
  | .recursionLimit depth url =>
    "excessive include recursion at depth " ++ depth.repr ++ ": " ++ String.ofList url
  | .undecodable cause => "failed to deserialize config: " ++ cause.message

/-- The resource simply is not there (`is_not_found`). -/
def isNotFound : LoadError → Bool
  | .fileNotFound _ => true
  | .httpStatus _ status => status == 404
  | _ => false

end LoadError

/-- Any error of the library. -/
inductive PropertyError
  | load (e : LoadError)
  | access (e : AccessError)

def PropertyError.message : PropertyError → String
  | .load e => "configuration error: " ++ e.message
  | .access e => e.message

end PropertyConfig
