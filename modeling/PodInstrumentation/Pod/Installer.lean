import PodInstrumentation.Config.MonitoringConfig
import PodInstrumentation.Pod.Manifest
/-!
The init container that installs the agent. It is told about the pod in its variables, and about
each container in a pair of variables that carries the container's number, counted from one. -/
namespace PodInstrumentation.Pod

/-- The number of containers, by whatever they are given in. -/
def containerCount (containers : Json) : Shaped Nat :=
  match containers with
  | .arr xs => .ok xs.length
  | .obj fs => .ok fs.length
  | .str s => .ok s.length
  | _ => misfit

def firstSecurityContext (containers : Json) : Shaped Fields :=
  match containers with
  | .arr [] => .ok []
  | .arr (x :: _) => do
    let context ← x.field "securityContext"
    return if context.isSet then [("securityContext", context)] else []
  | _ => misfit

def newInstaller (pod : Json) (image : String) (config : MonitoringConfig) : Shaped Json := do
  let cs ← containers pod
  let count ← containerCount cs
  let policy ← failurePolicy pod
  let base ← baseName pod
  let context ← firstSecurityContext cs
  let resources := config.initResources
  return .obj ([
    ("name", .str Names.installer),
    ("image", .str image),
    ("imagePullPolicy", .str "IfNotPresent"),
    ("args", .arr [.str "init"]),
    ("env", .arr [
      envVar Names.countVar (.str (toString count)),
      envVar Names.failurePolicyVar (.str policy),
      fieldVar Names.podNameVar "metadata.name",
      fieldVar Names.podUidVar "metadata.uid",
      envVar Names.basePodNameVar (.str base),
      fieldVar Names.namespaceVar "metadata.namespace",
      fieldVar Names.nodeNameVar "spec.nodeName"]),
    ("volumeMounts", .arr [mount Names.configVolume "/mnt/config"])]
    ++ context
    ++ if resources.isEmpty then [] else [("resources", .obj resources)])

/-- Tells the init container about a container, unless it knows one of that number. -/
def noteContainer (number : Int) (container : Json) (installer : Json) : Shaped Json := do
  if ← hasEnv installer (Names.containerNameVar number) then return installer
  match container with
  | .obj fs =>
    appendEnv [
      envVar (Names.containerNameVar number) ((fs.lookup "name").getD (.str "")),
      envVar (Names.containerImageVar number) ((fs.lookup "image").getD (.str ""))] installer
  | _ => misfit

def deploymentMetadata (deploymentType version clusterId : String) : String :=
  s!"orchestration_tech=Operator-{deploymentType};script_version={version};" ++
  s!"orchestrator_id={clusterId}"

def addMetadata (config : MonitoringConfig) (version clusterId : String) (container : Json) :
    Shaped Json := do
  if ← hasEnv container Names.metadataVar then return container
  appendEnv [envVar Names.metadataVar
    (.str (deploymentMetadata config.deploymentType version clusterId))] container

end PodInstrumentation.Pod
