import PodInstrumentation.Admission.Review
import PodInstrumentation.Capability.Pipeline
import PodInstrumentation.Capability.Registry
import PodInstrumentation.Telemetry.Log
import PodInstrumentation.Telemetry.Metrics
import PodInstrumentation.Telemetry.Trace
/-!
Admitting pods. A request always ends in an allowed pod: a fault on the way is answered with a
message and without a patch. A pod of a namespace that is assigned to a configuration is injected
or, if it was injected before, repaired. -/
namespace PodInstrumentation.Admission

inductive Outcome where
  | injected | reinvoked | skipped | softFailed
deriving DecidableEq, Repr

def Outcome.name : Outcome → String
  | injected => "injected"
  | reinvoked => "reinvoked"
  | skipped => "skipped"
  | softFailed => "soft_failed"

inductive Measurement where
  | admission (outcome : Outcome)
  | softFailure (kind : String)
  | repaired (count : Nat)
deriving DecidableEq

def Measurement.record (duration : Double) (m : Metrics) : Measurement → Metrics
  | admission outcome => m.admission outcome.name duration
  | softFailure kind => m.softFailure kind
  | repaired count => m.repair count

inductive Seconds where
  | whole (n : Int)
  | exact (x : Double)
deriving DecidableEq, Repr

def Seconds.text : Seconds → String
  | whole n => toString n
  | exact x => Number.doubleText x

/-- What is decided about a pod; it is allowed in any case. -/
structure Verdict where
  uid : String
  patch : Patch
  message : Option String
deriving DecidableEq

def Verdict.response (v : Verdict) : Response :=
  ⟨v.uid, true, v.patch.map Operation.fields, v.message⟩

structure Report where
  verdict : Verdict
  podName : Json
  outcome : Outcome
  fault : Option Fault
  measurements : List Measurement
  span : Span

def Report.record (a : Report) (duration : Double) (m : Metrics) : Metrics :=
  a.measurements.foldl (Measurement.record duration) m

def Report.entry (a : Report) (ns : String) (duration : Double) : Log.Entry :=
  match a.fault with
  | none => Log.admitted (.str ns) a.podName a.outcome.name a.verdict.patch.length duration
  | some f => Log.softFailed (.str ns) a.podName f.kind f.text duration f.isUnexpected

structure Handler where
  injector : Injector
  /-- The capabilities in the order in which they are injected. -/
  capabilities : List Capability
  image : String
  measured : Bool

namespace Handler

def softFailMessage (podName : String) (fault : String) : String :=
  s!"Failed to inject into pod: {podName} because {fault}"

def decode (object : List UInt8) : Except InjectionError Json :=
  match Json.ofBytes object with
  | .error e => .error (.decode s!"cannot decode pod: {e.text}" (some (.unreadable e)))
  | .ok (.obj fs) =>
    let kind := (fs.lookup "kind").getD (.str Names.podKind)
    if kind = .str Names.podKind then .ok (.obj fs)
    else .error (.decode s!"cannot decode pod: unexpected kind {kind.display}" none)
  | .ok _ => .error (.decode "cannot decode pod: admitted object is not a JSON object" none)

/-- The namespace of a request, or else the one that the pod gives. -/
def namespaceOf (request : Request) (pod : Json) : Shaped String := do
  if request.ns != "" then return request.ns
  let metadata ← pod.part "metadata"
  return ((metadata.get? "namespace").getD (.str "")).display

/-- The name of the configuration that a namespace is assigned to; empty if it is to none. -/
def configName (ns : String) : Attempt String := do
  match ← Attempt.ask (.readNamespace ns) with
  | .ok { metadata? := some (labels, _) } => return (labels.lookup Names.instanceLabel).getD ""
  | .ok { metadata? := none } => return ""
  | .error f =>
    if f.isClusterError then
      Attempt.fail (.configLookup s!"failed to query the namespace {ns}: {f.reason}"
        (some (.failure f)))
    else throw (.failure f)

/-- Posts an event; that the cluster does not take it is no fault. -/
def post (involved : Json) (type reason message : String) : Attempt Unit := do
  let event ← Attempt.ofShaped (Event.about Names.eventSource involved type reason message)
  match ← Attempt.ask (.createEvent event) with
  | .ok _ => return ()
  | .error f => if f.isClusterError then return () else throw (.failure f)

/-- The configuration of the given name. That it is missing is told in an event. -/
def readConfig (h : Handler) (ns name : String) : Attempt MonitoringConfig := do
  let operatorNs := h.injector.provisioner.ns
  match ← Attempt.ask (.readConfig name operatorNs) with
  | .ok resource =>
    match MonitoringConfig.ofResource resource with
    | .ok config => return config
    | .error .misshapen => throw .misshapen
    | .error (.invalid issues) =>
      let count := issues.length
      Attempt.fail (.configLookup s!"MonitoringConfig {name} is invalid: {count} errors"
        (some .invalidConfig))
  | .error f =>
    if f.isNotFound then do
      let missing := InjectionError.configMissing ns name
      post (Event.configReference name operatorNs) "Warning" "MissingConfig" missing.message
      Attempt.fail missing
    else if f.isClusterError then
      Attempt.fail (.configLookup s!"failed to query MonitoringConfig {name}: {f.reason}"
        (some (.failure f)))
    else throw (.failure f)

inductive Course where
  | skip
  | inject (ns : String) (config : MonitoringConfig)
  | reinvoke (ns : String) (config : MonitoringConfig)

def course (h : Handler) (request : Request) (pod : Json) : Attempt Course := do
  let ns ← Attempt.ofShaped (namespaceOf request pod)
  let name ← configName ns
  if name = "" then return .skip
  let config ← h.readConfig ns name
  if !config.needsInjection then return .skip
  if ← Attempt.ofShaped (Pod.isInjected pod) then
    return if config.reinvocation then .reinvoke ns config else .skip
  else return .inject ns config

def podReference (pod : Json) (ns : String) : Shaped Json := do
  let metadata ← pod.part "metadata"
  let name := (← metadata.field "name").orElse
    ((← metadata.field "generateName").orElse (.str ""))
  return .obj [
    ("apiVersion", .str "v1"),
    ("kind", .str Names.podKind),
    ("name", name),
    ("namespace", .str ns)]

def injectedPod (h : Handler) (ns : String) (config : MonitoringConfig) (pod : Json) :
    Attempt Json := do
  let installer ← Attempt.ofShaped (Pod.newInstaller pod h.image config)
  let pod ← Attempt.ofShaped (Pod.addConfigVolume pod)
  let (result, draft) ← ExceptT.lift (PodInstrumentation.inject h.injector config ns
    h.capabilities ⟨pod, installer⟩)
  match result with
  | .error e => throw e
  | .ok _ => Attempt.ofShaped do
    Pod.annotate Names.injected "true" (← Pod.addInstaller draft.installer draft.pod)

def freshPatch (h : Handler) (ns : String) (config : MonitoringConfig) (pod : Json) :
    Attempt (Patch × Outcome) := do
  let wanted ← Attempt.ofShaped (Capability.wanted pod h.capabilities)
  if wanted.isEmpty then return ([], .skipped)
  let pod' ← h.injectedPod ns config pod
  let base ← Attempt.ofShaped (Pod.baseName pod')
  let reference ← Attempt.ofShaped (podReference pod' ns)
  post reference "Normal" "Inject"
    s!"Injecting the necessary info into pod {base} in namespace {ns}"
  return (Patch.between pod pod', .injected)

def repairedPatch (ns : String) (pod pod' : Json) : Attempt (Patch × Outcome) := do
  let metadata ← Attempt.ofShaped (pod'.part "metadata")
  let generated := ((metadata.get? "generateName").getD (.str "")).display
  let reference ← Attempt.ofShaped (podReference pod' ns)
  post reference "Normal" "UpdatePod"
    s!"Updating pod {generated} in namespace {ns} with missing containers"
  return (Patch.between pod pod', .reinvoked)

/-- Follows a course. The number of repaired containers counts even if a fault comes after it. -/
def follow (h : Handler) (pod : Json) :
    Course → Interaction (Nat × Except Fault (Patch × Outcome))
  | .skip => return (0, .ok ([], .skipped))
  | .inject ns config => do return (0, ← (h.freshPatch ns config pod).run)
  | .reinvoke ns config =>
    match repair h.injector config h.capabilities pod with
    | (.error _, _) => return (0, .error .misshapen)
    | (.ok 0, _) => return (0, .ok ([], .skipped))
    | (.ok count, pod') => do return (count, ← (repairedPatch ns pod pod').run)

def decide (h : Handler) (request : Request) :
    Interaction (Nat × Except Fault (Patch × Outcome)) :=
  match decode request.object with
  | .error e => return (0, .error (.injection e))
  | .ok pod => do
    match ← (h.course request pod).run with
    | .error e => return (0, .error e)
    | .ok course => h.follow pod course

/-- The fault of a request that took too long is that it did. -/
def deadlineFault (deadline : Option Seconds) : Fault → Fault
  | .failure f =>
    if f.isTimeout then
      let shown := (deadline.map Seconds.text).getD "None"
      .injection (.general s!"admission deadline of {shown}s exceeded" "timeout" none
        (some (.failure f)))
    else .failure f
  | e => e

def span (request : Request) (podName : Json) (outcome : Option Outcome) : Span :=
  { name := "pod_admission"
    kind := Span.server
    attributes := Span.attributesOf ([
      ("k8s.namespace", Json.orElse (.str request.ns) Span.unknown),
      ("k8s.resource.name", podName.orElse Span.unknown),
      ("admission.uid", .str request.uid)]
      ++ (outcome.map fun o => ("admission.outcome", Json.str o.name)).toList)
    status := if outcome.isSome then .unset else .error
    description := none
    events := [] }

def conclude (request : Request) (deadline : Option Seconds) (podName : Json) (repaired : Nat)
    (result : Except Fault (Patch × Outcome)) : Report :=
  let repairs := if repaired = 0 then [] else [Measurement.repaired repaired]
  match result with
  | .ok (patch, outcome) =>
    { verdict := ⟨request.uid, patch, none⟩
      podName, outcome
      fault := none
      measurements := repairs ++ [.admission outcome]
      span := span request podName (some outcome) }
  | .error e =>
    let fault := deadlineFault deadline e
    { verdict := ⟨request.uid, [], some (softFailMessage podName.display fault.text)⟩
      podName
      outcome := .softFailed
      fault := some fault
      measurements := repairs ++ [.softFailure fault.kind, .admission .softFailed]
      span := span request podName none }

def podName (request : Request) : Shaped Json :=
  let pod := match decode request.object with
    | .ok pod => pod
    | .error _ => .null
  Pod.displayName pod request.name

/-- Answers a request. Only a pod whose metadata are misshapen is not answered. -/
def handle (h : Handler) (request : Request) (deadline : Option Seconds) :
    Interaction (Shaped Report) :=
  match podName request with
  | .error e => return .error e
  | .ok name => do
    let (repaired, result) ← h.decide request
    let admission := conclude request deadline name repaired result
    return .ok (if h.measured then admission else { admission with measurements := [] })

def standard (injector : Injector) (image : String) (measured : Bool) : Handler :=
  { injector, capabilities := [.agent, .enrichment], image, measured }

end Handler

end PodInstrumentation.Admission
