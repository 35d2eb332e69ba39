import PropertyConfig.Text.Letters
import PropertyConfig.Url.Error
import PropertyConfig.Url.Host.Ipv4
import PropertyConfig.Url.Host.Ipv6
import PropertyConfig.Url.Host.Label.Basic
import PropertyConfig.Url.Percent

/-!
# Hosts

A host is a domain name or an address. Domain names are kept in ASCII and in lower case.
-/

namespace PropertyConfig.Url

inductive Host
  | domain (name : Text)
  | ipv4 (address : Nat)
  | ipv6 (pieces : List Nat)
deriving DecidableEq, Repr

namespace Host

def text : Host → Text
  | .domain name => name
  | .ipv4 address => Ipv4.text address
  | .ipv6 pieces => '[' :: Ipv6.text pieces ++ [']']

/-- Characters that stand in no host, whatever the scheme. -/
def forbidden : List Char :=
  ['\x00', '\t', '\n', '\r', ' ', '#', '/', ':', '<', '>', '?', '@', '[', '\\', ']', '^', '|']

/-- Domain names have no controls, no `%` and nothing outside ASCII either. -/
def isForbiddenInDomain (c : Char) : Bool := isControlOrWide c || c = '%' || forbidden.contains c

/-- An address in brackets; the opening one is already read. -/
def readBracketed (t : Text) : Except UrlError Host :=
  match (if t.getLast? = some ']' then Ipv6.read? t.dropLast else none) with
  | none => .error .invalidIpv6
  | some pieces => .ok (.ipv6 pieces)

/-- The name of a domain in ASCII and in lower case. One that is in ASCII already has to have its
labels in order; which one stands for another name, `toAscii` knows. -/
def asciiName? (toAscii : Text → Option Text) (name : Text) : Option Text :=
  if name.all (·.toNat < 0x80) then
    (some (Text.toLower name)).filter fun name => Label.areValid (Text.splitAt '.' name)
  else toAscii name

/-- Reads the host of a scheme with a special meaning. -/
def read (toAscii : Text → Option Text) (t : Text) : Except UrlError Host :=
  match t with
  | '[' :: rest => readBracketed rest
  | t =>
    match asciiName? toAscii (Text.Utf8.decode (decode t)) with
    | none => .error .invalidDomain
    | some name =>
      if name.any isForbiddenInDomain then .error .invalidDomain
      else if name = [] then .error .emptyHost
      else if Ipv4.endsInNumber name then
        match Ipv4.read? name with
        | none => .error .invalidIpv4
        | some address => .ok (.ipv4 address)
      else .ok (.domain name)

/-- Reads the host of any other scheme. -/
def readOpaque (t : Text) : Except UrlError Host :=
  match t with
  | '[' :: rest => readBracketed rest
  | t =>
    if t.any forbidden.contains then .error .invalidHostCharacter else .ok (.domain (encode [] t))

end Host

end PropertyConfig.Url
