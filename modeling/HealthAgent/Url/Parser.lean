import HealthAgent.Text.Blank
import HealthAgent.Url.Basic
/-!
# Reading URLs

A URL is read on its own or against a base, to which it may be relative: it may name a fragment, a
query, a path, or an authority, and takes what comes before from the base. Blanks and controls around
it and line ends within it do not count. For the web a backslash is a slash, and any number of
slashes may follow the scheme.
-/
namespace HealthAgent.Url

/-- The text of a URL without what does not count. -/
def significant (cs : List Char) : List Char :=
  let isOuter (c : Char) : Bool := c.toNat ≤ 0x20
  let cs := ((cs.dropWhile isOuter).reverse.dropWhile isOuter).reverse
  cs.filter fun c => c ≠ '\t' && c ≠ '\n' && c ≠ '\r'

/-- Whether a character may stand in a scheme after its first letter. -/
def isSchemeChar (c : Char) : Bool := c.isAlphanum || c = '+' || c = '-' || c = '.'

/-- The scheme of a text, in small letters, and what follows its colon. -/
def cutScheme? (cs : List Char) : Option (String × List Char) :=
  if (cs.head?.any Char.isAlpha) then
    match cs.dropWhile isSchemeChar with
    | ':' :: rest => some (.ofList ((cs.takeWhile isSchemeChar).map Char.toLower), rest)
    | _ => none
  else none

/-- Whether a character is a slash of a URL for the web. -/
def isSlash (c : Char) : Bool := c = '/' || c = '\\'

/-- The marks after which a path has ended. -/
def endsPath (c : Char) : Bool := c = '?' || c = '#'

/-- The query and the fragment at the end of a text. -/
def readTail (kind : SchemeKind) (cs : List Char) : Option String × Option String :=
  let reserved := if kind = .other then queryReserved else webQueryReserved
  let (before, after) := cs.span (· ≠ '#')
  let query := match before with
    | '?' :: q => some (String.ofList (escape reserved q))
    | _ => none
  let fragment := match after with
    | '#' :: f => some (String.ofList (escape fragmentReserved f))
    | _ => none
  (query, fragment)

/-! ### Paths -/

/-- Whether a segment is a dot, which stands for the place itself. -/
def isDot (s : String) : Bool := s.lowerAscii = "." || s.lowerAscii = "%2e"

/-- Whether a segment is two dots, which stand for the place above. -/
def isDoubleDot (s : String) : Bool :=
  ["..", ".%2e", "%2e.", "%2e%2e"].contains s.lowerAscii

/-- The marks after a drive in the text of a URL. -/
def endsDrive (c : Char) : Bool := c = '/' || c = '\\' || endsPath c

/-- Whether a text starts with a drive, a letter with a colon or a bar. -/
def startsWithDrive : List Char → Bool
  | letter :: mark :: rest =>
    letter.isAlpha && (mark = ':' || mark = '|') && rest.head?.all endsDrive
  | _ => false

/-- Whether a segment names a drive. -/
def isDrive (s : String) : Bool := s.length = 2 && startsWithDrive s.toList

/-- Whether a segment names a drive with a colon. -/
def isColonDrive (s : String) : Bool := isDrive s && s.endsWith ":"

/-- The segments of the place above; one that starts with a drive stays. -/
def above (path : List String) : List String :=
  if path.getLast?.any fun s => startsWithDrive s.toList then path else path.dropLast

/-- The path after one more segment, which is the last one or not. The first segment of a file's path
names its drive with a colon. -/
def addSegment (kind : SchemeKind) (path : List String) (segment : String) (isLast : Bool) :
    List String :=
  if isDoubleDot segment then above path ++ if isLast then [""] else []
  else if isDot segment then path ++ if isLast then [""] else []
  else if kind = .file && path.isEmpty && isDrive segment then
    [String.ofList (segment.toList.take 1 ++ [':'])]
  else path ++ [segment]

def addSegments (kind : SchemeKind) : List String → List String → List String
  | path, [] => path
  | path, [segment] => addSegment kind path segment true
  | path, segment :: rest => addSegments kind (addSegment kind path segment false) rest

/-- The path after more segments, of which the first goes on with the last one of `path`. -/
def extendSegments (kind : SchemeKind) (path : List String) : List String → List String
  | [] => path
  | segment :: rest =>
    if isDoubleDot segment then addSegments kind path rest
    else if isDot segment then addSegments kind path (segment :: rest)
    else addSegments kind (path.dropLast ++ [path.getLastD "" ++ segment]) rest

/-- The texts between slashes. -/
def splitSegments (kind : SchemeKind) (cs : List Char) : List String :=
  let slashed := if kind = .other then cs else cs.map fun c => if c = '\\' then '/' else c
  (Text.fields '/' slashed).map fun s => .ofList (escape pathReserved s)

/-- Files have no empty segments at the start of their paths. -/
def trimFilePath (path : List String) : List String :=
  match path.dropWhile (· = "") with
  | [] => [""]
  | path => path

/-- Reads segments that follow those of `path`, up to a query or a fragment; also gives the rest. -/
def readPath (kind : SchemeKind) (path : List String) (cs : List Char) : List String × List Char :=
  let (text, rest) := cs.span fun c => !endsPath c
  (addSegments kind path (splitSegments kind text), rest)

/-- Reads the path after an authority. -/
def readPathStart (kind : SchemeKind) (cs : List Char) : List String × List Char :=
  match cs with
  | '/' :: rest => readPath kind [] rest
  | '\\' :: rest => if kind = .other then readPath kind [] cs else readPath kind [] rest
  | [] => if kind = .other then ([], []) else readPath kind [] []
  | c :: rest => if kind = .other && endsPath c then ([], cs) else readPath kind [] (c :: rest)

/-- A URL with a path and, from the text after it, a query and a fragment. -/
def finish (u : Url) (kind : SchemeKind) (path : Path) (rest : List Char) : Url :=
  let (query, fragment) := readTail kind rest
  { u with path, query, fragment }

/-- A URL that has a scheme and nothing else. -/
def bare (scheme : String) : Url :=
  ⟨scheme, "", "", none, none, .segments [], none, none⟩

/-! ### Authorities -/

/-- The text before the last `@` of an authority, if there is one, and what comes after. -/
def cutCredentials (kind : SchemeKind) (cs : List Char) : Option (List Char) × List Char :=
  let ends (c : Char) : Bool := c = '/' || endsPath c || (c = '\\' && kind ≠ .other)
  let (authority, rest) := cs.span fun c => !ends c
  match Text.cutAtLast ['@'] authority with
  | some (credentials, host) => (some credentials, host ++ rest)
  | none => (none, cs)

/-- The end of the text of a host: the first colon outside brackets, or the end of the authority. -/
def cutHost (kind : SchemeKind) : Bool → List Char → List Char × List Char
  | _, [] => ([], [])
  | inBrackets, c :: rest =>
    if (c = ':' && !inBrackets) || c = '/' || endsPath c || (c = '\\' && kind ≠ .other) then
      ([], c :: rest)
    else
      let inside := if c = '[' then true else if c = ']' then false else inBrackets
      let (host, rest) := cutHost kind inside rest
      (c :: host, rest)

/-- Reads the number of a port, which has to end where the authority does. -/
def readPort (scheme : String) (cs : List Char) : Except UrlError (Option Nat × List Char) :=
  let (digits, rest) := cs.span Char.isDigit
  let port := digits.foldl (fun acc d => 10 * acc + (d.toNat - 48)) 0
  if 65535 < port then .error .invalidPort
  else if rest.head?.all fun c => isSlash c || endsPath c then
    .ok (if digits.isEmpty || defaultPort? scheme = some port then none else some port, rest)
  else .error .invalidPort

/-- Reads a URL from its authority on. -/
def readAuthority (scheme : String) (cs : List Char) : Except UrlError Url := do
  let kind := schemeKind scheme
  let (credentials, rest) := cutCredentials kind cs
  if credentials = some [] && rest.head?.any (fun c => c = '/' || endsPath c ||
      (c = '\\' && kind ≠ .other)) then
    throw .emptyHost
  let (name, password) := (Text.cutAt ':' (credentials.getD [])).getD (credentials.getD [], [])
  let written (cs : List Char) : String := .ofList (escape credentialsReserved cs)
  let (hostText, rest) := cutHost kind false rest
  let host ← if kind = .other then plainHost? hostText
    else if hostText.isEmpty then .error .emptyHost
    else webHost? hostText
  if hostText.isEmpty && (rest.head? = some ':' || !name.isEmpty || !password.isEmpty) then
    throw .emptyHost
  let (port, rest) ← match rest with
    | ':' :: rest => readPort scheme rest
    | _ => pure (none, rest)
  let (path, rest) := readPathStart kind rest
  let u := { bare scheme with
    username := written name, password := written password, host := some host, port }
  return finish u kind (.segments path) rest

/-! ### Files -/

/-- The segments of a path, none for a plain text. -/
def Path.list : Path → List String
  | segments list => list
  | plain _ => []

/-- Reads the host of a file, after two slashes; none if there is none or it is this host. A drive
is no host. -/
def readFileHost (cs : List Char) : Except UrlError (Option Host × List Char) :=
  let (text, rest) := cs.span fun c => !endsDrive c
  if isDrive (.ofList text) then .ok (none, cs)
  else if text.isEmpty then .ok (none, rest)
  else do
    match ← webHost? text with
    | .domain "localhost" => return (none, rest)
    | host => return (some host, rest)

/-- The URL of a file without a host. -/
def bareFile : Url := { bare "file" with host := some .none }

def finishFile (u : Url) (path : List String) (rest : List Char) : Url :=
  finish u .file (.segments (trimFilePath path)) rest

/-- Reads the URL of a file after two slashes. A drive in the first place drops the host. -/
def readFileAuthority (cs : List Char) : Except UrlError Url := do
  match ← readFileHost cs with
  | (none, rest) =>
    let (path, rest) := readPath .file [] rest
    return finishFile bareFile path rest
  | (some host, rest) =>
    let (path, rest) := readPathStart .file rest
    let host := if path.head?.any isColonDrive then .none else host
    return finishFile { bareFile with host := some host } path rest

/-- Reads the URL of a file after its only leading slash. Without a drive of its own it takes the
drive of the base, or else the host of the base. -/
def readFileRoot (base : Option Url) (cs : List Char) : Url :=
  let inherited := if startsWithDrive cs then none else base
  let drive := inherited.bind fun b => b.path.list.head?.filter isColonDrive
  let host := if drive.isSome then bareFile.host else (inherited.map (·.host)).getD bareFile.host
  let (path, rest) := readPath .file drive.toList cs
  finishFile { bareFile with host } path rest

/-- Reads the path of a file against the path of a base. A base that ends in a drive keeps it; below
its first segment the text goes on with the drive. -/
def readFileBeside (base : List String) (cs : List Char) : List String × List Char :=
  if base.getLast?.any isColonDrive then
    if base.length = 1 then readPath .file base cs
    else
      let (text, rest) := cs.span fun c => !endsPath c
      (extendSegments .file base (splitSegments .file text), rest)
  else readPath .file base.dropLast cs

/-- Reads the URL of a file after its scheme, against a base for files if there is one. -/
def readFileUrl (base : Option Url) (cs : List Char) : Except UrlError Url :=
  match cs, base with
  | [], some b => .ok b.withoutFragment
  | [], none => .ok { bareFile with path := .segments [""] }
  | c :: rest, base =>
    if isSlash c then
      if rest.head?.any isSlash then readFileAuthority (rest.drop 1)
      else .ok (readFileRoot base rest)
    else
      match base with
      | some b =>
        if c = '#' then .ok { b with fragment := (readTail .file cs).2 }
        else if c = '?' then .ok (finish b .file b.path cs)
        else if startsWithDrive cs then
          let (path, rest) := readPath .file [] cs
          .ok (finishFile bareFile path rest)
        else
          let (path, rest) := readFileBeside b.path.list cs
          .ok (finishFile b path rest)
      | none =>
        let (path, rest) := readPath .file [] cs
        .ok (finishFile bareFile path rest)

/-! ### The whole -/

/-- Reads a text that is relative to a base which is not for files. -/
def readRelative (base : Url) (cs : List Char) : Except UrlError Url :=
  let kind := schemeKind base.scheme
  match cs with
  | [] => .ok base.withoutFragment
  | '#' :: _ => .ok { base with fragment := (readTail kind cs).2 }
  | '?' :: _ => .ok (finish base kind base.path cs)
  | c :: rest =>
    if isSlash c then
      if rest.head?.any isSlash then
        let rest := if c = '/' && rest.head? = some '/' then rest.drop 1 else rest.dropWhile isSlash
        readAuthority base.scheme rest
      else
        let (path, rest) := readPath kind [] rest
        .ok (finish base kind (.segments path) rest)
    else
      let (path, rest) := readPath kind base.path.list.dropLast cs
      .ok (finish base kind (.segments path) rest)

def readWithScheme (base : Option Url) (scheme : String) (cs : List Char) : Except UrlError Url :=
  match schemeKind scheme with
  | .file => readFileUrl (base.filter (·.scheme = "file")) cs
  | .web =>
    match base with
    | some b =>
      if b.scheme = scheme && (cs.takeWhile isSlash).length < 2 then readRelative b cs
      else readAuthority scheme (cs.dropWhile isSlash)
    | none => readAuthority scheme (cs.dropWhile isSlash)
  | .other =>
    match cs with
    | '/' :: '/' :: rest => readAuthority scheme rest
    | '/' :: rest =>
      let (path, rest) := readPath .other [] rest
      .ok (finish (bare scheme) .other (.segments path) rest)
    | _ =>
      let (text, rest) := cs.span fun c => !endsPath c
      .ok (finish (bare scheme) .other (.plain (.ofList (escape [] text))) rest)

/-- Reads a URL, against a base if there is one. -/
def parseWith (base : Option Url) (s : String) : Except UrlError Url :=
  let cs := significant s.toList
  match cutScheme? cs, base with
  | some (scheme, rest), base => readWithScheme base scheme rest
  | none, none => .error .relativeWithoutBase
  | none, some b =>
    match cs.head?, b.path with
    | some '#', _ => .ok { b with fragment := (readTail (schemeKind b.scheme) cs).2 }
    | _, .plain _ => .error .relativeToPlainPath
    | _, .segments _ => if b.scheme = "file" then readFileUrl (some b) cs else readRelative b cs

def parse (s : String) : Except UrlError Url := parseWith none s

def join (u : Url) (s : String) : Except UrlError Url := parseWith (some u) s

end HealthAgent.Url
