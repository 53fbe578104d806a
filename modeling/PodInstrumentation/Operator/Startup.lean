import PodInstrumentation.Admission.Handler
import PodInstrumentation.Operator.Settings
import PodInstrumentation.Telemetry.Log
/-!
The life of the operator. It finds out how to reach the cluster, which image its init containers
have and which cluster this is; it starts its services in order, going on without the metrics
server but without nothing else, and stops them at its end. The framework that runs it is told how
to log, what to watch and where to validate configurations. -/
namespace PodInstrumentation

inductive ConnectionSource where
  | inCluster
  | kubeconfig
deriving DecidableEq, Repr

namespace ConnectionSource

def all : List ConnectionSource := [inCluster, kubeconfig]

/-- The sources that are tried, the last of them alone being one that may load. -/
def tried (loads : ConnectionSource → Bool) : List ConnectionSource → List ConnectionSource
  | [] => []
  | s :: r => if loads s then [s] else s :: tried loads r

def chosen (loads : ConnectionSource → Bool) : Option ConnectionSource := all.find? loads

end ConnectionSource

inductive StartError where
  /-- Neither an image nor the operator's own pod is named. -/
  | noImageSource
  | misshapen
  | failure (f : Failure)
  | server
deriving DecidableEq, Repr

def StartError.message? : StartError → Option String
  | noImageSource => some "POD_NAME or WEBHOOK_IMAGE must be set to resolve the webhook image"
  | failure (.runtime text) => some text
  | server => some "start failed"
  | misshapen | failure _ => none

abbrev Bootstrap := ExceptT StartError Interaction

namespace Bootstrap

def ask (c : ApiCall) : Bootstrap c.Answer := do
  match ← ExceptT.lift (Interaction.ask c) with
  | .ok a => return a
  | .error f => throw (.failure f)

def image (s : Settings) : Bootstrap String := do
  if s.webhookImage != "" then return s.webhookImage
  if s.podName = "" then throw .noImageSource
  match ← ask (.readPod s.podName s.operatorNs) with
  | [] => throw .misshapen
  | image :: _ => return image

/-- The cluster is known by the uid of a namespace that every cluster has. -/
def clusterId : Bootstrap (Option String) := do
  match ← ask (.readNamespace Names.kubeSystem) with
  | { metadata? := some (_, uid) } => return uid
  | { metadata? := none } => throw .misshapen

end Bootstrap

end PodInstrumentation

namespace PodInstrumentation.Operator

inductive Service where
  | metrics
  | webhook
deriving DecidableEq, Repr

inductive Action where
  | setUpTracing (options : TracingOptions)
  /-- Connects to the cluster; each call to it may take so many seconds. -/
  | connect (timeout : Double)
  | makeMetricsServer (host : String) (port : Int)
  | makeHandler (image ns : String) (clusterId : Option String) (maxDepth : Int)
  | makeWebhookServer (host : String) (port : Int) (certDir : String)
  | start (service : Service)
  | cleanUp
  | stop (service : Service)
  | shutDownTracing
deriving DecidableEq

def tracingOptions (s : Settings) : TracingOptions := { TracingOptions.default with
  enabled := s.tracingEnabled
  endpoint := s.tracingEndpoint
  sampleRate := s.sampleRate
  insecure := s.tracingInsecure }

/-- The operator as it runs: what was done, and the services that are up, in the order in which
they came up. -/
structure Running where
  done : List Action
  services : List Service
deriving DecidableEq

namespace Running

def idle : Running := ⟨[], []⟩

def note (a : Action) (r : Running) : Running := { r with done := r.done ++ [a] }

def keep (s : Service) (r : Running) : Running := { r with services := r.services ++ [s] }

end Running

abbrev Startup := ExceptT StartError (StateT Running Interaction)

def note (a : Action) : Startup Unit := modify (Running.note a)

def resolve {α : Type} (b : Bootstrap α) : Startup α := ExceptT.mk (StateT.lift b.run)

def startService (fails : Bool) (s : Service) : Startup Unit := do
  note (.start s)
  if fails then throw .server
  modify (Running.keep s)

def start (settings : Settings) (fails : Service → Bool) : Startup Unit := do
  note (.setUpTracing (tracingOptions settings))
  note (.connect settings.requestTimeout)
  let image ← resolve (Bootstrap.image settings)
  let clusterId ← resolve Bootstrap.clusterId
  note (.makeMetricsServer settings.metricsHost settings.metricsPort)
  tryCatch (startService (fails .metrics) .metrics) fun _ => pure ()
  note (.makeHandler image settings.operatorNs clusterId settings.maxDepth)
  note (.makeWebhookServer settings.injectionHost settings.injectionPort settings.certDir)
  startService (fails .webhook) .webhook

inductive StopError where
  | server
deriving DecidableEq, Repr

def StopError.message : StopError → String
  | server => "stop failed"

abbrev Cleanup := ExceptT StopError (StateM Running)

def stopService (fails : Service → Bool) (s : Service) : Cleanup Unit := do
  if (← get).services.contains s then
    modify (Running.note (.stop s))
    if fails s then throw .server

/-- Ends the operator. A service that cannot be stopped keeps it from going on. -/
def cleanUp (fails : Service → Bool) : Cleanup Unit := do
  modify (Running.note .cleanUp)
  stopService fails .webhook
  stopService fails .metrics
  modify (Running.note .shutDownTracing)

def reconnectDelay : Double := .ofDecimal 1 0

def postsOwnEvents : Bool := false

structure ValidationServer where
  host : String
  port : Int
  certificate : String
  key : String
deriving DecidableEq

structure Plan where
  logging : Log.Options
  clusterwide : Bool
  healthEndpoint : String
  validation : Option ValidationServer
deriving DecidableEq

def validationServer (s : Settings) : ValidationServer :=
  ⟨"0.0.0.0", s.validationPort, s!"{s.certDir}/tls.crt", s!"{s.certDir}/tls.key"⟩

def plan (s : Settings) : Plan where
  logging := ⟨Text.upper s.logLevel, s.jsonLogs, s.correlationIds, s.logHealthProbes,
    s.webhookLogLevel⟩
  clusterwide := true
  healthEndpoint := "http://0.0.0.0:8080/healthz"
  validation := if s.validates then some (validationServer s) else none

def Plan.announcement (p : Plan) (s : Settings) : String :=
  match p.validation with
  | some v =>
    s!"Validating webhook ENABLED on port {v.port} using certificates from {s.certDir}"
  | none => "Validating webhook DISABLED"

inductive Ending where
  | finished
  | interrupted
  | failed
deriving DecidableEq, Repr

/-- The exit code, none if the program just ends. -/
def Ending.exitCode : Ending → Option Nat
  | finished => none
  | interrupted => some 0
  | failed => some 1

end PodInstrumentation.Operator
