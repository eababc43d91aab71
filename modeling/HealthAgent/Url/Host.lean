import HealthAgent.Text.Utf8
import HealthAgent.Url.Address
import HealthAgent.Url.Domain
import HealthAgent.Url.Percent
/-!
# Hosts

The host of a URL for the web is an address or a domain name. Other schemes keep the text of their
host as it is, except for an address in brackets.

Results:
* `isLoopback_domain`: of all domain names only `localhost` is this host.
-/
namespace HealthAgent

/-- Why a text is not a URL. -/
inductive UrlError where
  | emptyHost
  | invalidDomain
  | invalidPort
  | invalidIpv4
  | invalidIpv6
  | invalidHostCharacter
  /-- The text is relative, and there is no URL to which it is. -/
  | relativeWithoutBase
  /-- The text is relative, and the path of the URL to which it is has no segments. -/
  | relativeToPlainPath
  deriving DecidableEq, Repr

def UrlError.message : UrlError → String
  | emptyHost => "empty host"
  | invalidDomain => "invalid international domain name"
  | invalidPort => "invalid port number"
  | invalidIpv4 => "invalid IPv4 address"
  | invalidIpv6 => "invalid IPv6 address"
  | invalidHostCharacter => "invalid domain character"
  | relativeWithoutBase => "relative URL without a base"
  | relativeToPlainPath => "relative URL with a cannot-be-a-base base"

namespace Url

inductive Host where
  | domain (name : String)
  | ipv4 (address : Ipv4)
  | ipv6 (address : Ipv6)
  /-- The text of a host under a scheme that is not for the web. -/
  | plain (text : String)
  deriving DecidableEq

def Host.none : Host := plain ""

def Host.text : Host → String
  | domain name => name
  | ipv4 a => a.text
  | ipv6 a => "[" ++ a.text ++ "]"
  | plain text => text

/-- Whether a host is the one on which the program runs. -/
def Host.isLoopback : Host → Bool
  | domain name => name = "localhost"
  | ipv4 a => a.isLoopback
  | ipv6 a => a.isLoopback
  | plain text => text = "localhost" || (Ipv4.ofDotted? text.toList).any Ipv4.isLoopback

/-- Reads the text of a host that starts with a bracket. -/
def bracketed? (cs : List Char) : Except UrlError Host :=
  if cs.getLast? = some ']' then
    match Ipv6.parse? (cs.drop 1).dropLast with
    | some a => .ok (.ipv6 a)
    | none => .error .invalidIpv6
  else .error .invalidIpv6

/-- Reads the host of a URL for the web. -/
def webHost? (cs : List Char) : Except UrlError Host :=
  if cs.head? = some '[' then bracketed? cs
  else
    match String.fromUTF8? ⟨(unescape (String.ofList cs).toUTF8.toList).toArray⟩ with
    | none => .error .invalidDomain
    | some name =>
      match domainToAscii? name.toList with
      | none => .error .invalidDomain
      | some [] => .error .emptyHost
      | some name =>
        if Ipv4.isMeant name then
          match Ipv4.ofHostName? name with
          | some a => .ok (.ipv4 a)
          | none => .error .invalidIpv4
        else .ok (.domain (.ofList name))

/-- The characters that stand in no host. -/
def hostForbidden : List Char := "\x00\t\n\r #/:<>?@[\\]^|".toList

/-- Reads the host of a URL under another scheme. -/
def plainHost? (cs : List Char) : Except UrlError Host :=
  if cs.head? = some '[' then bracketed? cs
  else if cs.any hostForbidden.contains then .error .invalidHostCharacter
  else .ok (.plain (.ofList (escape [] cs)))

theorem Host.isLoopback_domain (name : String) :
    (domain name).isLoopback = true ↔ name = "localhost" := by
  simp [isLoopback]

end Url
end HealthAgent
