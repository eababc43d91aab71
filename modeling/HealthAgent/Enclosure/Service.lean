import HealthAgent.Host.Request
import HealthAgent.Json.Parser
import HealthAgent.Json.Printer
import HealthAgent.Text.Quoted
import HealthAgent.Url.Parser
/-!
# The management service of the enclosure (specification §6, §B.7)

The service answers a request for a resource with a JSON object, in which a field holds the list of
records. A service on this host to which no connection can be made is missing; every other failure
may pass.

Results:
* `records?_eq_ok`: the records are those of the list in the field, and there is no other way to get
  records.
-/
namespace HealthAgent

structure ServiceClient where
  base : Url
  deriving DecidableEq

namespace ServiceClient

def make (url : String) : Except SourceError ServiceClient :=
  match Url.parse url with
  | .ok base => .ok ⟨base⟩
  | .error e => .error (.malformed s!"invalid API url {url.quotedText}: {e.message}")

/-- Whether the service runs on this host. -/
def isLocal (c : ServiceClient) : Bool := c.base.isLoopback

def endpoint (c : ServiceClient) (path : String) : Except SourceError Url :=
  match c.base.join path with
  | .ok url => .ok url
  | .error e => .error (.malformed s!"invalid API path {path.quotedText}: {e.message}")

/-- The records that a field of an answer lists. -/
def records? (body : Json) (key : String) : Except SourceError (List Json) :=
  match body.field? key with
  | some (.array records) => .ok records
  | some other => .error (.malformed s!"`{key}` is not a list: {other.canonical.compress}")
  | none => .error (.malformed s!"response has no `{key}` field")

/-- Whether a status tells that the service has done what was asked. -/
def isSuccess (status : Nat) : Bool := 200 ≤ status && status < 300

/-- Whether a reply with a status has content. -/
def hasContent (status : Nat) : Bool := status ≠ 204 && status ≠ 304

def readReply (url : Url) (key : String) (status : Nat) (content : List UInt8) :
    Except SourceError (List Json) :=
  if isSuccess status then
    let content := if hasContent status then content else []
    match Json.parseBytes? ⟨content.toArray⟩ with
    | some body => records? body key
    | none => .error (.malformed s!"invalid JSON from {url.text}: error decoding response body")
  else .error (.httpStatus url.text status)

/-- The records that the answer of the service stands for. -/
def readAnswer (c : ServiceClient) (url : Url) (key : String) (a : ServiceAnswer) :
    Except SourceError (List Json) :=
  let place := s!"for url ({url.withoutCredentials.text})"
  let failure := s!"error sending request {place}"
  match a with
  | .reply status content => readReply url key status content
  | .refused =>
    if c.isLocal then
      .error (.dependencyMissing s!"enclosure API not reachable at {url.text}: {failure}")
    else .error (.transport s!"request to {url.text} failed: {failure}")
  | .broken => .error (.transport s!"request to {url.text} failed: {failure}")
  | .unsupported => .error (.transport s!"request to {url.text} failed: builder error {place}")

def fetch (c : ServiceClient) (path key : String) : HostProgram (Except SourceError (List Json)) := do
  match c.endpoint path with
  | .error e => return .error e
  | .ok url => return c.readAnswer url key (← (HostRequest.get url).ask)

theorem records?_eq_ok (body : Json) (key : String) (records : List Json) :
    records? body key = .ok records ↔ body.field? key = some (.array records) := by
  unfold records?
  split <;> simp_all

end ServiceClient
end HealthAgent
