import PodInstrumentation.Cluster.Store
import PodInstrumentation.Operator.Settings
import PodInstrumentation.Telemetry.Trace
/-!
Clusters and settings that are read from documents. The tables of a cluster are written as one
object with a member for each table, and an entry with an error in it says how asking for it
fails. -/
namespace PodInstrumentation

namespace Json

def textAt (j : Json) (key absent : String) : String := ((j.get key).text?).getD absent

def fieldsAt (j : Json) (key : String) : Fields := ((j.get key).fields?).getD []

def textsAt (j : Json) (key : String) : List String := (j.itemsAt key).filterMap text?

def intAt (j : Json) (key : String) (absent : Int) : Int :=
  match j.get key with
  | .int n => n
  | _ => absent

def flagAt (j : Json) (key : String) (absent : Bool) : Bool :=
  ((j.get? key).map isSet).getD absent

def number? : Json → Option Double
  | .int n =>
    let x := Double.ofDecimal n.natAbs 0
    some (if n < 0 then x.neg else x)
  | .float x => some x
  | _ => none

def numberAt (j : Json) (key : String) (absent : Double) : Double :=
  ((j.get key).number?).getD absent

end Json

def Failure.ofJson (j : Json) : Failure :=
  match j.get? "status", j.get? "transport", j.get? "runtime", j.get? "timeout" with
  | some (.int code), _, _, _ => .status code (j.get "reason").text?
  | _, some (.str text), _, _ => .transport text
  | _, _, some (.str text), _ => .runtime text
  | _, _, _, some _ => .timeout
  | _, _, _, _ => .hang

def textPairs (fs : Fields) : List (String × String) := fs.map fun f => (f.1, f.2.text?.getD "")

def Namespace.ofJson (j : Json) : Namespace :=
  if (j.get "no_metadata").isSet then ⟨none⟩
  else ⟨some (textPairs (j.fieldsAt "labels"), (j.get "uid").text?)⟩

def Secret.ofJson (j : Json) : Secret := ⟨textPairs (j.fieldsAt "data")⟩

def imagesOfJson (j : Json) : List String :=
  (j.itemsAt "containers").map fun c => c.textAt "image" ""

def Entry.ofJson {α : Type} (read : Json → α) (j : Json) : Entry α :=
  match j.get? "error" with
  | some f => .error (.ofJson f)
  | none => .ok (read j)

namespace Store

def mergeTable {α : Type} (read : Json → α) (j : Json) (name : String)
    (table : List (String × α)) : List (String × α) :=
  (j.fieldsAt name).foldl (fun t f => setEntry f.1 (read f.2) t) table

def merge (s : Store) (j : Json) : Store := { s with
  namespaces := mergeTable (Entry.ofJson .ofJson) j "namespaces" s.namespaces
  configs := mergeTable (Entry.ofJson id) j "configs" s.configs
  secrets := mergeTable (Entry.ofJson .ofJson) j "secrets" s.secrets
  objects := mergeTable (Entry.ofJson id) j "objects" s.objects
  pods := mergeTable (Entry.ofJson imagesOfJson) j "pods" s.pods
  createErrors := mergeTable .ofJson j "create_secret_errors" s.createErrors
  eventError := match j.get? "event_error" with
    | none => s.eventError
    | some .null => none
    | some f => some (.ofJson f) }

def ofJson (j : Json) : Store := merge empty j

def without {α : Type} (key : String) (table : List (String × α)) : List (String × α) :=
  table.filter (·.1 != key)

def delete (s : Store) (table key : String) : Store :=
  match table with
  | "namespaces" => { s with namespaces := without key s.namespaces }
  | "configs" => { s with configs := without key s.configs }
  | "secrets" => { s with secrets := without key s.secrets }
  | "objects" => { s with objects := without key s.objects }
  | "pods" => { s with pods := without key s.pods }
  | "create_secret_errors" => { s with createErrors := without key s.createErrors }
  | _ => s

end Store

def TracingOptions.ofJson (j : Json) : TracingOptions where
  enabled := j.flagAt "enabled" default.enabled
  endpoint := j.textAt "endpoint" default.endpoint
  serviceName := j.textAt "service_name" default.serviceName
  sampleRate := j.numberAt "sample_rate" default.sampleRate
  insecure := j.flagAt "insecure" default.insecure

/-- The default settings with those of a document in their place; doubles are numbers in it. -/
def Settings.ofJson (j : Json) : Settings where
  operatorNs := j.textAt "operator_namespace" default.operatorNs
  podName := j.textAt "pod_name" default.podName
  webhookImage := j.textAt "webhook_image" default.webhookImage
  logLevel := j.textAt "log_level" default.logLevel
  jsonLogs := j.flagAt "json_logs" default.jsonLogs
  correlationIds := j.flagAt "correlation_ids" default.correlationIds
  logHealthProbes := j.flagAt "log_health_probes" default.logHealthProbes
  webhookLogLevel := j.textAt "webhook_log_level" default.webhookLogLevel
  injectionHost := j.textAt "injection_webhook_host" default.injectionHost
  injectionPort := j.intAt "injection_webhook_port" default.injectionPort
  certDir := j.textAt "webhook_cert_dir" default.certDir
  requestTimeout := j.numberAt "kubernetes_request_timeout_seconds" default.requestTimeout
  maxDepth := j.intAt "owner_chain_max_depth" default.maxDepth
  validates := j.flagAt "enable_webhooks" default.validates
  validationPort := j.intAt "webhook_port" default.validationPort
  metricsPort := j.intAt "metrics_port" default.metricsPort
  metricsHost := j.textAt "metrics_host" default.metricsHost
  tracingEnabled := j.flagAt "tracing_enabled" default.tracingEnabled
  tracingEndpoint := j.textAt "tracing_endpoint" default.tracingEndpoint
  sampleRate := j.numberAt "tracing_sample_rate" default.sampleRate
  tracingInsecure := j.flagAt "tracing_insecure" default.tracingInsecure

end PodInstrumentation
