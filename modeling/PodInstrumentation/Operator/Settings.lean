import PodInstrumentation.Config.Issue
import PodInstrumentation.Number.Reader
/-!
The settings of the operator. Each is given by an environment variable, whose name may be written
in any case, or has a default; variables that are no settings do not count. -/
namespace PodInstrumentation

open Config (Checked)

structure Settings where
  operatorNs : String
  podName : String
  webhookImage : String
  logLevel : String
  jsonLogs : Bool
  correlationIds : Bool
  logHealthProbes : Bool
  webhookLogLevel : String
  injectionHost : String
  injectionPort : Int
  certDir : String
  requestTimeout : Double
  maxDepth : Int
  validates : Bool
  validationPort : Int
  metricsPort : Int
  metricsHost : String
  tracingEnabled : Bool
  tracingEndpoint : String
  sampleRate : Double
  tracingInsecure : Bool
deriving DecidableEq

namespace Settings

def default : Settings where
  operatorNs := "injection-system"
  podName := ""
  webhookImage := ""
  logLevel := "INFO"
  jsonLogs := true
  correlationIds := true
  logHealthProbes := false
  webhookLogLevel := "INFO"
  injectionHost := "0.0.0.0"
  injectionPort := 8443
  certDir := "/tmp/k8s-webhook-server/serving-certs"
  requestTimeout := .ofDecimal 5 0
  maxDepth := 10
  validates := true
  validationPort := 9443
  metricsPort := 8081
  metricsHost := "0.0.0.0"
  tracingEnabled := false
  tracingEndpoint := "http://localhost:4317"
  sampleRate := .ofDecimal 1 0
  tracingInsecure := true

def names : List String := [
  "OPERATOR_NAMESPACE", "POD_NAME", "WEBHOOK_IMAGE", "LOG_LEVEL", "JSON_LOGS", "CORRELATION_IDS",
  "LOG_HEALTH_PROBES", "WEBHOOK_LOG_LEVEL", "INJECTION_WEBHOOK_HOST", "INJECTION_WEBHOOK_PORT",
  "WEBHOOK_CERT_DIR", "KUBERNETES_REQUEST_TIMEOUT_SECONDS", "OWNER_CHAIN_MAX_DEPTH",
  "ENABLE_WEBHOOKS", "WEBHOOK_PORT", "METRICS_PORT", "METRICS_HOST", "TRACING_ENABLED",
  "TRACING_ENDPOINT", "TRACING_SAMPLE_RATE", "TRACING_INSECURE"]

abbrev Environment := List (String × String)

/-- The value of a variable: of names that differ in case only, that of the last. -/
def find (env : Environment) (name : String) : Option String :=
  (env.reverse.find? fun e => Text.lower e.1 == Text.lower name).map (·.2)

def setting {α : Type} (env : Environment) (name : String) (absent : α)
    (check : String → Checked α) : Checked α :=
  match find env name with
  | some s => (check s).within (.key name)
  | none => .valid absent

def flag (s : String) : Checked Bool :=
  match Config.boolWord? s with
  | some b => .valid b
  | none => .issue .boolUnreadable

def whole (s : String) : Checked Int :=
  match Number.readInteger s with
  | .ok n => .valid n
  | .error .unreadable => .issue .integerUnreadable
  | .error .tooLong => .issue .integerTooLong

def number (s : String) : Checked Double :=
  match Number.readDouble? s with
  | some x => .valid x
  | none => .issue .numberUnreadable

def count (s : String) : Checked Int :=
  (whole s).andThen fun n => if n < 1 then .issue .tooSmall else .valid n

/-- A number above zero. What is no number is not below anything. -/
def duration (s : String) : Checked Double :=
  (number s).andThen fun x => if x.toFloat ≤ 0 then .issue .notGreater else .valid x

def rate (s : String) : Checked Double :=
  (number s).andThen fun x =>
    if 1 < x.toFloat then .issue .tooLarge
    else if x.toFloat < 0 then .issue .tooSmall
    else .valid x

def ofEnvironment (env : Environment) : Checked Settings :=
  Settings.mk <$> setting env "OPERATOR_NAMESPACE" default.operatorNs .valid
    <*> setting env "POD_NAME" default.podName .valid
    <*> setting env "WEBHOOK_IMAGE" default.webhookImage .valid
    <*> setting env "LOG_LEVEL" default.logLevel .valid
    <*> setting env "JSON_LOGS" default.jsonLogs flag
    <*> setting env "CORRELATION_IDS" default.correlationIds flag
    <*> setting env "LOG_HEALTH_PROBES" default.logHealthProbes flag
    <*> setting env "WEBHOOK_LOG_LEVEL" default.webhookLogLevel .valid
    <*> setting env "INJECTION_WEBHOOK_HOST" default.injectionHost .valid
    <*> setting env "INJECTION_WEBHOOK_PORT" default.injectionPort whole
    <*> setting env "WEBHOOK_CERT_DIR" default.certDir .valid
    <*> setting env "KUBERNETES_REQUEST_TIMEOUT_SECONDS" default.requestTimeout duration
    <*> setting env "OWNER_CHAIN_MAX_DEPTH" default.maxDepth count
    <*> setting env "ENABLE_WEBHOOKS" default.validates flag
    <*> setting env "WEBHOOK_PORT" default.validationPort whole
    <*> setting env "METRICS_PORT" default.metricsPort whole
    <*> setting env "METRICS_HOST" default.metricsHost .valid
    <*> setting env "TRACING_ENABLED" default.tracingEnabled flag
    <*> setting env "TRACING_ENDPOINT" default.tracingEndpoint .valid
    <*> setting env "TRACING_SAMPLE_RATE" default.sampleRate rate
    <*> setting env "TRACING_INSECURE" default.tracingInsecure flag

end Settings

end PodInstrumentation
