import HealthAgent.Url.Host
/-!
# URLs

A URL has a scheme, perhaps an authority (a host with credentials and a port), a path, and perhaps a
query and a fragment. The path is a list of segments, or, where no slash follows the scheme, a plain
text.

Results:
* `text_withoutFragment`: the text of a URL is that without its fragment, and then the fragment.
-/
namespace HealthAgent
namespace Url

inductive Path where
  | segments (list : List String)
  /-- A text without structure; nothing is relative to it. -/
  | plain (text : String)
  deriving DecidableEq

def Path.text : Path → String
  | segments list => String.join (list.map ("/" ++ ·))
  | plain text => text

inductive SchemeKind where
  /-- A scheme for files. -/
  | file
  /-- A scheme for the web, with a host. -/
  | web
  | other
  deriving DecidableEq, Repr

def schemeKind (scheme : String) : SchemeKind :=
  if scheme = "file" then .file
  else if ["http", "https", "ws", "wss", "ftp"].contains scheme then .web
  else .other

/-- The port of a scheme where a URL names none. -/
def defaultPort? (scheme : String) : Option Nat :=
  if scheme = "http" || scheme = "ws" then some 80
  else if scheme = "https" || scheme = "wss" then some 443
  else if scheme = "ftp" then some 21
  else none

end Url

/-- A URL. All texts hold their escapes. -/
structure Url where
  scheme : String
  username : String
  password : String
  /-- The host, or none where there is no authority. -/
  host : Option Url.Host
  /-- The port, unless it is that of the scheme. -/
  port : Option Nat
  path : Url.Path
  query : Option String
  fragment : Option String
  deriving DecidableEq

namespace Url

/-- The user name and the password of a URL, with the sign that ends them. -/
def credentialsText (u : Url) : String :=
  if u.username = "" && u.password = "" then ""
  else u.username ++ (if u.password = "" then "" else ":" ++ u.password) ++ "@"

/-- The authority of a URL, with the slashes before it. -/
def authorityText (u : Url) : String :=
  match u.host with
  | some host => "//" ++ u.credentialsText ++ host.text ++ (u.port.elim "" fun p => s!":{p}")
  | none => ""

/-- The path of a URL. Where a path without an authority would read as one, `/.` stands before
it. -/
def pathText (u : Url) : String :=
  match u.host, u.path with
  | none, .segments ("" :: next :: rest) => "/." ++ (Path.segments ("" :: next :: rest)).text
  | _, path => path.text

/-- The query of a URL, with its mark. -/
def queryText (u : Url) : String := u.query.elim "" ("?" ++ ·)

def text (u : Url) : String :=
  u.scheme ++ ":" ++ u.authorityText ++ u.pathText ++ u.queryText ++ u.fragment.elim "" ("#" ++ ·)

/-- What a request for a URL names of it: the path and the query. -/
def target (u : Url) : String := u.path.text ++ u.queryText

/-- Whether a URL is one of the host on which the program runs. -/
def isLoopback (u : Url) : Bool := u.host.any Host.isLoopback

/-- A URL without its credentials. A user name whose escapes are no text stays. -/
def withoutCredentials (u : Url) : Url :=
  if (String.fromUTF8? ⟨(unescape u.username.toUTF8.toList).toArray⟩).isSome then
    { u with username := "", password := "" }
  else u

def withoutFragment (u : Url) : Url := { u with fragment := none }

theorem text_withoutFragment (u : Url) :
    u.text = u.withoutFragment.text ++ u.fragment.elim "" ("#" ++ ·) := by
  have h : u.withoutFragment.text =
      u.scheme ++ ":" ++ u.authorityText ++ u.pathText ++ u.queryText ++ "" := rfl
  rw [h, String.append_empty, text]

end Url
end HealthAgent
