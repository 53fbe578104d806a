import PodInstrumentation.Telemetry.Template
import PodInstrumentation.Text.Case
/-!
Logs. A record is written as one JSON object; requests of probes are kept out of the log, and
every record carries the identifier of the request it belongs to. -/
namespace PodInstrumentation.Log

/- Levels are numbers; a record is logged from the level of its logger on. -/

def critical : Int := 50
def error : Int := 40
def warning : Int := 30
def info : Int := 20
def debug : Int := 10

def levelName (level : Int) : String :=
  let names := [(critical, "CRITICAL"), (error, "ERROR"), (warning, "WARNING"), (info, "INFO"),
    (debug, "DEBUG"), (0, "NOTSET")]
  (names.lookup level).getD s!"Level {level}"

inductive LevelError where
  | lineTemplate
  | templateTable
deriving DecidableEq, Repr

def LevelError.message? : LevelError → Option String
  | lineTemplate => some "Unknown level: '%(levelname)s:%(name)s:%(message)s'"
  | templateTable => none

/-- The level that a word names in any case. A word without a meaning names the level of plain
information. -/
def readLevel (word : String) : Except LevelError Int :=
  match Text.upper word with
  | "CRITICAL" | "FATAL" => .ok critical
  | "ERROR" => .ok error
  | "WARNING" | "WARN" => .ok warning
  | "DEBUG" => .ok debug
  | "NOTSET" => .ok 0
  | "BASIC_FORMAT" => .error .lineTemplate
  | "_STYLES" => .error .templateTable
  | _ => .ok info

structure Options where
  level : String
  structured : Bool
  correlated : Bool
  probesShown : Bool
  webhookLevel : String
deriving DecidableEq

def Options.default : Options := ⟨"INFO", true, true, false, "INFO"⟩

inductive Filter where
  | correlation
  | probes
deriving DecidableEq, Repr

inductive Component where
  | framework
  | clusterClient
  | transport
  | webAccess
  | webServer
  | web
  | injection
  | validation
deriving DecidableEq, Repr

structure Setup where
  level : Int
  template : Option String
  filters : List Filter
  levels : List (Component × Int)
deriving DecidableEq

def quietComponents : List Component :=
  [.framework, .clusterClient, .transport, .webAccess, .webServer, .web]

def webhookComponents : List Component := [.injection, .validation]

def lineTemplate (correlated : Bool) : String :=
  if correlated then "%(asctime)s - %(correlation_id)s - %(name)s - %(levelname)s - %(message)s"
  else "%(asctime)s - %(name)s - %(levelname)s - %(message)s"

def setup (o : Options) : Except LevelError Setup := do
  let level ← readLevel o.level
  let webhookLevel ← readLevel o.webhookLevel
  return {
    level
    template := if o.structured then none else some (lineTemplate o.correlated)
    filters := (if o.correlated then [.correlation] else [])
      ++ (if o.probesShown then [] else [.probes])
    levels := quietComponents.map (·, warning) ++ webhookComponents.map (·, webhookLevel) }

def probePaths : List String := ["/healthz", "/livez", "/metrics"]

/-- Whether a message may be logged: it names no path of a probe, unless all may. -/
def passes (suppress : Bool) (message : String) : Bool :=
  !suppress || probePaths.all fun p => !Text.occursIn p.toList message.toList

/-- The identifier of a request whose identifier was the given one, empty if it had none; a fresh
one takes the place of none. -/
def correlate (fresh current : String) : String := if current = "" then fresh else current

/-- The identifier of an admission request is the start of its uid. -/
def ofUid (fresh uid : String) : String := correlate fresh (String.ofList (uid.toList.take 8))

structure Record where
  level : Int
  logger : String
  template : String
  arguments : List Json
  extra : Fields
  exception : Option (String × String)

def structuredFields : List String := [
  "namespace", "pod_name", "operation", "duration", "error_type", "mutators", "patch_operations",
  "repaired_containers", "monitoring_config"]

def exceptionText (kind text : String) : String := if text = "" then kind else s!"{kind}: {text}"

def Record.json (r : Record) (time : String) : Except Template.Error Json := do
  let message ← Template.fill r.template r.arguments
  let exception := r.exception.map fun (kind, text) =>
    ("exception", Json.str (exceptionText kind text))
  return .obj ([
    ("timestamp", .str time),
    ("level", .str (levelName r.level)),
    ("logger", .str r.logger),
    ("message", .str message),
    ("correlation_id", (r.extra.lookup "correlation_id").getD (.str ""))]
    ++ exception.toList
    ++ structuredFields.filterMap fun name => (r.extra.lookup name).map (name, ·))

structure Entry where
  level : Int
  message : String
  fields : Fields
  traced : Bool
deriving DecidableEq

def received (uid : String) (ns podName : Json) : Entry :=
  { level := debug
    message := s!"Received pod admission request {uid}"
    fields := [("namespace", ns), ("pod_name", podName), ("operation", .str "admission_start")]
    traced := false }

def admitted (ns podName : Json) (outcome : String) (operations : Nat) (duration : Double) :
    Entry :=
  { level := info
    message := s!"Pod {podName.display} in namespace {ns.display} admitted ({outcome})"
    fields := [("namespace", ns), ("pod_name", podName), ("operation", .str outcome),
      ("patch_operations", .int operations), ("duration", .float duration)]
    traced := false }

def softFailed (ns podName : Json) (kind text : String) (duration : Double) (unexpected : Bool) :
    Entry :=
  { level := error
    message := s!"Failed to inject into pod {podName.display} in namespace {ns.display}: {text}"
    fields := [("namespace", ns), ("pod_name", podName), ("operation", .str "soft_fail"),
      ("error_type", .str kind), ("duration", .float duration)]
    traced := unexpected }

/-- Whether a logger of the given level logs the entry. A logger of level zero leaves the level
open, and then entries are logged from warnings on. -/
def Entry.isLogged (e : Entry) (level : Int) : Bool :=
  (if level = 0 then warning else level) ≤ e.level

example : readLevel "warn" = .ok 30 := by cbv
example : passes true "GET /livez" = false := by cbv
example : ofUid "fresh" "123456789" = "12345678" := by cbv

end PodInstrumentation.Log
