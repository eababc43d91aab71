import HealthAgent.Config.Validate
import HealthAgent.Toml.Parser
/-!
# Reading configurations (specification §A.3)

Every section and every setting may be missing and has its default then. Settings that are not
known do not count. A section may also be given as a list of its settings in order, of which the
last ones may be missing.

Configurations come as configuration texts or as JSON values, which differ in two points: in a text
a section's list may be longer than the section, and a name of an enumeration may be the key of an
empty table instead of `null`.
-/
namespace HealthAgent

namespace Toml

mutual

/-- A value of a configuration text as a JSON value. A date is an object that holds its text under
a key of its own. -/
def Value.toJson : Value → Json
  | .string s => .string s
  | .integer n => .number (.whole n)
  | .float _ => .number (.float 0)
  | .boolean b => .bool b
  | .datetime text => .object [("$__toml_private_datetime", .string text)]
  | .array items => .array (itemsToJson items)
  | .table es => .object (entriesToJson es)

def itemsToJson : List Value → List Json
  | [] => []
  | v :: rest => v.toJson :: itemsToJson rest

def entriesToJson : List (String × Value) → List (String × Json)
  | [] => []
  | (k, v) :: rest => (k, v.toJson) :: entriesToJson rest

end

end Toml

namespace Config

/-- The form that configuration values have. -/
inductive Form where
  | json | text
  deriving DecidableEq, Repr

/-- The values of a section's settings; `none` inside marks a setting that is not given. -/
def settings? (form : Form) (names : List String) : Json → Option (List (Option Json))
  | .object fields => (Json.object fields).fieldValues? names
  | .array items =>
    if form = .json ∧ items.length > names.length then none
    else
      let given := items.take names.length
      some (given.map some ++ List.replicate (names.length - given.length) none)
  | _ => none

/-- The value of a setting, or its default if it is not given. -/
def setting? {α : Type} (decode : Json → Option α) (default : α) : Option Json → Option α
  | none => some default
  | some j => decode j

def fruKind? (form : Form) : Json → Option FruKind
  | .string s => FruKind.parse? s
  | .object [(name, .null)] => if form = .json then FruKind.parse? name else none
  | .object [(name, .object [])] => if form = .text then FruKind.parse? name else none
  | .object [(name, .array [])] => if form = .text then FruKind.parse? name else none
  | _ => none

def list? {α : Type} (decode : Json → Option α) : Json → Option (List α)
  | .array items => items.mapM decode
  | _ => none

def optionalText? : Json → Option (Option String)
  | .null => some none
  | j => j.text?.map some

def systemInformation? (form : Form) (j : Json) : Option SystemInformation := do
  let [site, rack, node, cluster, path] ←
    settings? form ["site_id", "rack_id", "node_id", "cluster_id", "data_path"] j | none
  let d := SystemInformation.default
  return {
    siteId := ← setting? Json.word32? d.siteId site
    rackId := ← setting? Json.word32? d.rackId rack
    nodeId := ← setting? Json.word32? d.nodeId node
    clusterId := ← setting? Json.word32? d.clusterId cluster
    dataPath := ← setting? Json.text? d.dataPath path }

def logConfig? (form : Form) (j : Json) : Option LogConfig := do
  let [enabled, poll, threshold, query, size, viaSudo] ←
    settings? form ["enabled", "poll_interval_seconds", "usage_threshold",
      "query_interval_seconds", "entry_size_bytes", "use_sudo"] j | none
  let d := LogConfig.default
  return {
    enabled := ← setting? Json.bool? d.enabled enabled
    pollIntervalSeconds := ← setting? Json.word64? d.pollIntervalSeconds poll
    usageThreshold := ← setting? Json.word32? d.usageThreshold threshold
    queryIntervalSeconds := ← setting? Json.word64? d.queryIntervalSeconds query
    entrySizeBytes := ← setting? Json.word64? d.entrySizeBytes size
    useSudo := ← setting? Json.bool? d.useSudo viaSudo }

def enclosureConfig? (form : Form) (j : Json) : Option EnclosureConfig := do
  let [enabled, url, poll, timeout, frus] ←
    settings? form ["enabled", "api_url", "poll_interval_seconds", "request_timeout_seconds",
      "frus"] j | none
  let d := EnclosureConfig.default
  return {
    enabled := ← setting? Json.bool? d.enabled enabled
    apiUrl := ← setting? Json.text? d.apiUrl url
    pollIntervalSeconds := ← setting? Json.word64? d.pollIntervalSeconds poll
    requestTimeoutSeconds := ← setting? Json.word64? d.requestTimeoutSeconds timeout
    frus := ← setting? (list? (fruKind? form)) d.frus frus }

def outputConfig? (form : Form) (j : Json) : Option OutputConfig := do
  let [file, mirror] ← settings? form ["alerts_file", "iem_mirror"] j | none
  let d := OutputConfig.default
  return {
    alertsFile := ← setting? optionalText? d.alertsFile file
    iemMirror := ← setting? Json.bool? d.iemMirror mirror }

def ofJson? (form : Form) (j : Json) : Option Config := do
  let [system, sel, enclosure, output] ←
    settings? form ["system_information", "sel", "enclosure", "output"] j | none
  let d := Config.default
  return {
    systemInformation := ← setting? (systemInformation? form) d.systemInformation system
    sel := ← setting? (logConfig? form) d.sel sel
    enclosure := ← setting? (enclosureConfig? form) d.enclosure enclosure
    output := ← setting? (outputConfig? form) d.output output }

def toJson (c : Config) : Json := .object [
  ("enclosure", .object [
    ("api_url", .string c.enclosure.apiUrl),
    ("enabled", .bool c.enclosure.enabled),
    ("frus", .array (c.enclosure.frus.map fun k => .string k.name)),
    ("poll_interval_seconds", .ofNat c.enclosure.pollIntervalSeconds.toNat),
    ("request_timeout_seconds", .ofNat c.enclosure.requestTimeoutSeconds.toNat)]),
  ("output", .object [
    ("alerts_file", .ofOption c.output.alertsFile),
    ("iem_mirror", .bool c.output.iemMirror)]),
  ("sel", .object [
    ("enabled", .bool c.sel.enabled),
    ("entry_size_bytes", .ofNat c.sel.entrySizeBytes.toNat),
    ("poll_interval_seconds", .ofNat c.sel.pollIntervalSeconds.toNat),
    ("query_interval_seconds", .ofNat c.sel.queryIntervalSeconds.toNat),
    ("usage_threshold", .ofNat c.sel.usageThreshold.toNat),
    ("use_sudo", .bool c.sel.useSudo)]),
  ("system_information", .object [
    ("cluster_id", .ofNat c.systemInformation.clusterId.toNat),
    ("data_path", .string c.systemInformation.dataPath),
    ("node_id", .ofNat c.systemInformation.nodeId.toNat),
    ("rack_id", .ofNat c.systemInformation.rackId.toNat),
    ("site_id", .ofNat c.systemInformation.siteId.toNat)])]

/-- Why there is no configuration. -/
inductive Error where
  /-- The file cannot be read. -/
  | unreadable
  /-- The text is no configuration. -/
  | malformed
  | invalid (cause : Invalid)
  deriving DecidableEq, Repr

/-- Reads and checks a configuration text. -/
def parse (text : String) : Except Error Config :=
  match (Toml.parse? text).bind fun es => ofJson? .text (.object (Toml.entriesToJson es)) with
  | none => .error .malformed
  | some c =>
    match c.validate with
    | .ok () => .ok c
    | .error cause => .error (.invalid cause)

end Config
end HealthAgent
