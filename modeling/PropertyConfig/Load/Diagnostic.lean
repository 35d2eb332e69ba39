import PropertyConfig.Condition
import PropertyConfig.Resource.Error
import PropertyConfig.Url.Basic

/-!
# Diagnostics

What is noticed while a resource is loaded, and where. A notice is what happened; how severe it is
and what is said of it follow from that.
-/

namespace PropertyConfig

inductive Severity
  | debug
  | info
  | warning
  | error
deriving DecidableEq, Repr

namespace Severity

def name : Severity → String
  | .debug => "debug"
  | .info => "info"
  | .warning => "warning"
  | .error => "error"

/-- The place among the severities. -/
def rank : Severity → Nat
  | .debug => 0
  | .info => 1
  | .warning => 2
  | .error => 3

end Severity

/-- What can be noted (`record`). -/
inductive Notice
  | invalidIf (written : Text)
  | nestedIf
  | invalidCondition (cause : ConditionError)
  | otherwiseOutside
  | otherwiseTrailing
  | endIfOutside
  | endIfTrailing
  | missingEndIf
  | unknownKey (key : Text)
  /-- The output of a `%log` line, in the file of that name if it has one. -/
  | logged (file : Option Text) (message : Text)
  | includeFailed (isOptional : Bool) (target : Text) (cause : LoadError)
  /-- An include that is skipped because of the resources around it. -/
  | includeSkipped (depth : Nat) (target : Text)
  | tested (key : Text) (result : Bool)
  | including (target : Text)
  | includingUrl (target : Text) (url : Url)
  | debugModeOn

namespace Notice

def severity : Notice → Severity
  | .otherwiseTrailing | .endIfTrailing | .includeSkipped _ _ => .warning
  | .logged _ _ | .tested _ _ | .including _ | .includingUrl _ _ | .debugModeOn => .info
  | .includeFailed true _ _ => .debug
  | _ => .error

def message : Notice → String
  | .invalidIf written => "invalid '%if' specification: " ++ String.ofList written
  | .nestedIf => "nested '%if' not supported"
  | .invalidCondition cause => cause.message
  | .otherwiseOutside => "'%else' without previous '%if'"
  | .otherwiseTrailing => "invalid characters following '%else'"
  | .endIfOutside => "'%endif' without previous '%if'"
  | .endIfTrailing => "invalid characters following '%endif'"
  | .missingEndIf => "missing '%endif'"
  | .unknownKey key => "invalid/unrecognized key specified: " ++ String.ofList key
  | .logged none m => String.ofList m
  | .logged (some file) m => "[" ++ String.ofList file ++ "] " ++ String.ofList m
  | .includeFailed _ target cause =>
    "error including '" ++ String.ofList target ++ "': " ++ cause.message
  | .includeSkipped depth target => (LoadError.recursionLimit depth target).message
  | .tested key result =>
    "(DEBUG) '%if " ++ String.ofList key ++ "' is " ++ if result then "true" else "false"
  | .including target => "(DEBUG) including: " ++ String.ofList target
  | .includingUrl target url =>
    "(DEBUG) including URL: [" ++ String.ofList target ++ "] " ++ String.ofList url.text
  | .debugModeOn => "(DEBUG) 'debugMode' set to true"

end Notice

/-- A notice, the resource that it is about if that has a URL, and the line in it, counted from
one. -/
structure Diagnostic where
  source : Option Url
  line : Option Nat
  notice : Notice

namespace Diagnostic

def severity (d : Diagnostic) : Severity := d.notice.severity

def message (d : Diagnostic) : String := d.notice.message

/-- Where the diagnostic points, in brackets. -/
def place (d : Diagnostic) : String :=
  match d.source, d.line with
  | some u, some n => " [" ++ String.ofList u.text ++ ":" ++ n.repr ++ "]"
  | some u, none => " [" ++ String.ofList u.text ++ "]"
  | none, some n => " [line " ++ n.repr ++ "]"
  | none, none => ""

/-- The diagnostic on one line. -/
def text (d : Diagnostic) : String := d.severity.name ++ d.place ++ ": " ++ d.message

end Diagnostic

end PropertyConfig
